import NxccBridge.Core.Framing
import NxccBridge.Core.Serde

/-!
# Postbacks

`vm/zenroom/src/vmm/mod.rs`.  A postback is checked once, on its configured URL and
on the addresses that its host has then.  The HTTP client looks the host up again
for every connection and follows redirects.
-/

namespace NxccBridge.Postback

open NxccBridge.Framing
open NxccBridge.Serde

/-! ## Addresses -/

inductive IpAddr
  | v4 (addr : BitVec 32)
  | v6 (addr : BitVec 128)
  deriving DecidableEq

/-- `Ipv4Addr::new`. -/
def ipv4 (a b c d : BitVec 8) : BitVec 32 := a ++ b ++ c ++ d

def ipv4InRange (ip base : BitVec 32) (prefixBits : ℕ) : Bool :=
  if prefixBits = 0 then true
  else
    let mask := BitVec.allOnes 32 <<< (32 - prefixBits)
    ip &&& mask == base &&& mask

/-- The ranges that are not public: this network, private, shared address space,
loopback, link-local, private, IETF protocol assignments, documentation, 6to4
relay, private, benchmarking, documentation, documentation, multicast, reserved
for future use, broadcast. -/
def ipv4Ranges : List (BitVec 32 × ℕ) :=
  [(ipv4 0 0 0 0, 8), (ipv4 10 0 0 0, 8), (ipv4 100 64 0 0, 10),
    (ipv4 127 0 0 0, 8), (ipv4 169 254 0 0, 16), (ipv4 172 16 0 0, 12),
    (ipv4 192 0 0 0, 24), (ipv4 192 0 2 0, 24), (ipv4 192 88 99 0, 24),
    (ipv4 192 168 0 0, 16), (ipv4 198 18 0 0, 15), (ipv4 198 51 100 0, 24),
    (ipv4 203 0 113 0, 24), (ipv4 224 0 0 0, 4), (ipv4 240 0 0 0, 4),
    (ipv4 255 255 255 255, 32)]

def isPublicIpv4 (addr : BitVec 32) : Bool :=
  !ipv4Ranges.any fun range => ipv4InRange addr range.1 range.2

/-- The first of the eight segments. -/
def firstSegment (addr : BitVec 128) : BitVec 16 :=
  (addr >>> 112).setWidth 16

/-- `Ipv6Addr::to_ipv4_mapped`. -/
def toIpv4Mapped (addr : BitVec 128) : Option (BitVec 32) :=
  if addr >>> 32 = 0xffff then some (addr.setWidth 32) else none

/-- `Ipv6Addr::to_ipv4`: mapped and compatible addresses. -/
def toIpv4 (addr : BitVec 128) : Option (BitVec 32) :=
  if addr >>> 32 = 0xffff ∨ addr >>> 32 = 0 then some (addr.setWidth 32)
  else none

def isDocumentationIpv6 (addr : BitVec 128) : Bool :=
  addr >>> 96 == 0x20010db8

def isPublicIpv6 (addr : BitVec 128) : Bool :=
  match (toIpv4Mapped addr).or (toIpv4 addr) with
  | some v4 => isPublicIpv4 v4
  | none =>
      let segment := firstSegment addr
      -- loopback, unspecified, multicast, unique local, link-local
      !(addr == 1 || addr == 0 || segment &&& 0xff00 == 0xff00 ||
        segment &&& 0xfe00 == 0xfc00 || segment &&& 0xffc0 == 0xfe80 ||
        isDocumentationIpv6 addr)

def isPublicIp : IpAddr → Bool
  | .v4 addr => isPublicIpv4 addr
  | .v6 addr => isPublicIpv6 addr

/-! ## URLs -/

/-- `url::Url`, by the parts that are read. -/
structure Url where
  scheme : String
  host : Option String
  port : Option ℕ
  path : String
  deriving DecidableEq

/-- `Url::port_or_known_default`. -/
def Url.portOrKnownDefault (url : Url) : Option ℕ :=
  url.port.or
    (if url.scheme = "http" ∨ url.scheme = "ws" then some 80
    else if url.scheme = "https" ∨ url.scheme = "wss" then some 443
    else if url.scheme = "ftp" then some 21
    else none)

structure ErrorInfo where
  code : String
  message : String
  deriving DecidableEq

/-- The postback part of the VM's configuration. -/
structure ZenroomConfig where
  postbackEnabled : Bool
  postbackAllowedHostSuffixes : List String
  postbackAllowedSchemes : List String
  postbackAllowedPorts : List ℕ
  postbackBlockPrivateIps : Bool

def asciiLower (text : String) : List Char := text.toList.map Char.toLower

def hostMatches (host suffix : String) : Bool :=
  asciiLower host == asciiLower suffix ||
    ('.' :: asciiLower suffix).isSuffixOf (asciiLower host)

/-- The checks on the text of a URL; the host and the port that passed. -/
def checkUrl (config : ZenroomConfig) (url : Url) :
    Except ErrorInfo (String × ℕ) :=
  if !config.postbackAllowedSchemes.any fun allowed =>
      asciiLower allowed == asciiLower url.scheme then
    .error {
      code := "postback_scheme_denied"
      message := "Scheme '" ++ url.scheme ++ "' not allowed" }
  else
    match url.portOrKnownDefault with
    | none =>
        .error {
          code := "postback_port_missing", message := "Missing URL port" }
    | some port =>
        if port ∉ config.postbackAllowedPorts then
          .error {
            code := "postback_port_denied"
            message := "Port " ++ toString port ++ " not allowed" }
        else
          match url.host with
          | none =>
              .error {
                code := "postback_host_missing"
                message := "Missing URL host" }
          | some host =>
              if config.postbackAllowedHostSuffixes.isEmpty then
                .error {
                  code := "postback_host_denied"
                  message := "No allowed postback host suffixes configured" }
              else if !config.postbackAllowedHostSuffixes.any
                  (hostMatches host) then
                .error {
                  code := "postback_host_denied"
                  message := "Host '" ++ host ++ "' not in allowlist" }
              else .ok (host, port)

/-! ## The network and the client -/

structure Response where
  status : ℕ
  body : Except String Bytes

/-- How a server answers a request.  A redirect comes with the URL that its
location is read as. -/
inductive Answer
  | failed
  | redirect (location : Url)
  | response (response : Response)

/-- What the VM meets: the libraries under it, the DNS answers and the servers, by
the number of the network action.  A connection goes to one of the addresses
that are found for it, or to none. -/
structure Network where
  parseUrl : String → Except String Url
  parseIp : String → Option IpAddr
  displayIp : IpAddr → String
  parseMethod : String → Option String
  jsonPointer : JsonValue → String → Option JsonValue
  utf8Lossy : Bytes → String
  lookupHost : ℕ → String → ℕ → Except String (List IpAddr)
  choose : ℕ → ℕ
  answer : ℕ → Answer
  requestError : ℕ → String
  elapsedMs : ℕ → ℕ → ℕ

variable (network : Network) (config : ZenroomConfig)

def resolveHostIps (now : ℕ) (host : String) (port : ℕ) :
    Except ErrorInfo (List IpAddr) :=
  match network.parseIp host with
  | some ip => .ok [ip]
  | none =>
      (network.lookupHost now host port).mapError fun e =>
        { code := "postback_dns_failed", message := e }

def validatePostbackUrl (now : ℕ) (url : Url) : Except ErrorInfo Unit :=
  match checkUrl config url with
  | .error e => .error e
  | .ok (host, port) =>
      if config.postbackBlockPrivateIps then
        match resolveHostIps network now host port with
        | .error e => .error e
        | .ok addresses =>
            match addresses.find? fun ip => !isPublicIp ip with
            | some ip =>
                .error {
                  code := "postback_ip_denied"
                  message := "IP " ++ network.displayIp ip ++
                    " is not globally routable" }
            | none => .ok ()
      else .ok ()

/-- A request that was sent, and the address it was sent to. -/
structure Hop where
  url : Url
  address : IpAddr
  deriving DecidableEq

/-- The address that the client connects to for a URL. -/
def connected (now : ℕ) (url : Url) : Option IpAddr :=
  match url.host, url.portOrKnownDefault with
  | some host, some port =>
      match resolveHostIps network now host port with
      | .ok addresses => addresses[network.choose now]?
      | .error _ => none
  | _, _ => none

structure Exchange where
  hops : List Hop
  now : ℕ
  result : Except String Response

/-- `send` of a client without a redirect policy of its own, which has a number of
redirects left. -/
def follow : ℕ → ℕ → Url → Exchange
  | redirects, now, url =>
      match connected network now url with
      | none =>
          { hops := []
            now := now + 1
            result := .error (network.requestError now) }
      | some address =>
          let hop : Hop := { url := url, address := address }
          match network.answer now, redirects with
          | .failed, _ =>
              { hops := [hop]
                now := now + 1
                result := .error (network.requestError now) }
          | .response response, _ =>
              { hops := [hop], now := now + 1, result := .ok response }
          | .redirect _, 0 =>
              { hops := [hop]
                now := now + 1
                result := .error (network.requestError now) }
          | .redirect location, redirects + 1 =>
              let later := follow redirects (now + 1) location
              { later with hops := hop :: later.hops }

/-- The default of the client. -/
def maxRedirects : ℕ := 10

/-! ## Postbacks -/

structure PostbackBodySelector where
  source : String
  jsonPointer : Option String

structure HttpPostbackTarget where
  url : String
  method : Option String
  headers : Option (List (String × String))
  body : Option PostbackBodySelector

structure EvmJsonRpcTarget where
  url : String
  method : String
  params : List PostbackBodySelector

inductive PostbackTarget
  | http (target : HttpPostbackTarget)
  | evmJsonRpc (target : EvmJsonRpcTarget)

structure PostbackConfig where
  required : Bool
  retries : UInt32
  targets : List PostbackTarget

structure ZenroomResult where
  stdout : String
  stdoutJson : Option JsonValue

inductive SelectedBody
  | json (value : JsonValue)
  | raw (bytes : Bytes)

def selectPostbackBody (selector : Option PostbackBodySelector)
    (zenroom : ZenroomResult) (selectedOutput : Option JsonValue) :
    Except ErrorInfo SelectedBody :=
  match selector with
  | none =>
      .error {
        code := "postback_body_missing"
        message := "Postback body selector missing" }
  | some selector =>
      if selector.source = "stdout" then
        match selector.jsonPointer, zenroom.stdoutJson with
        | some _, none =>
            .error {
              code := "stdout_json_missing"
              message := "stdout_json not available" }
        | some pointer, some stdoutJson =>
            match network.jsonPointer stdoutJson pointer with
            | some value => .ok (.json value)
            | none =>
                .error {
                  code := "json_pointer_not_found"
                  message := "json_pointer did not resolve" }
        | none, some stdoutJson => .ok (.json stdoutJson)
        | none, none => .ok (.raw (utf8 zenroom.stdout))
      else if selector.source = "selected_output" then
        match selectedOutput with
        | some value => .ok (.json value)
        | none =>
            .error {
              code := "selected_output_missing"
              message := "No selected_output" }
      else
        .error {
          code := "unsupported_postback_source"
          message := "Unsupported postback source '" ++ selector.source ++
            "'" }

structure PostbackResult where
  targetIndex : ℕ
  kind : String
  ok : Bool
  status : Option ℕ
  durationMs : ℕ
  responseBodyTruncated : Option String
  error : Option ErrorInfo

def PostbackResult.failed (index : ℕ) (kind : String) (durationMs : ℕ)
    (error : ErrorInfo) : PostbackResult where
  targetIndex := index
  kind := kind
  ok := false
  status := none
  durationMs := durationMs
  responseBodyTruncated := none
  error := some error

def truncateBytes (bytes : Bytes) (max : ℕ) : Option String :=
  if bytes.isEmpty then none
  else some (network.utf8Lossy (bytes.take max))

/-- A request that the VM hands to the client, and when. -/
structure Send where
  now : ℕ
  url : Url
  method : String
  headers : List (String × String)
  body : SelectedBody

/-- What one target comes to. -/
structure Delivery where
  sends : List Send
  now : ℕ
  result : PostbackResult

/-- `max.saturating_add(1)` attempts, less the first. -/
def furtherAttempts (max : UInt32) : ℕ := min (max.toNat + 1) (2 ^ 32 - 1) - 1

/-- The loop over the attempts, with a number of further ones left. -/
def attempts (index : ℕ) (kind : String) (start : ℕ) :
    ℕ → Send → Delivery
  | left, send =>
      let exchange := follow network maxRedirects send.now send.url
      let durationMs := network.elapsedMs start exchange.now
      match exchange.result, left with
      | .ok response, _ =>
          { sends := [send]
            now := exchange.now
            result := {
              targetIndex := index
              kind := kind
              ok := 200 ≤ response.status ∧ response.status < 300
              status := some response.status
              durationMs := durationMs
              responseBodyTruncated :=
                truncateBytes network
                  (match response.body with
                  | .ok bytes => bytes
                  | .error _ => []) 512
              error := none } }
      | .error e, 0 =>
          { sends := [send]
            now := exchange.now
            result := .failed index kind durationMs
              { code := "postback_failed", message := e } }
      | .error _, left + 1 =>
          let later := attempts index kind start left
            { send with now := exchange.now }
          { later with sends := send :: later.sends }

/-- A target that was refused before anything was sent. -/
def refusal (index : ℕ) (kind : String) (start now : ℕ) (error : ErrorInfo) :
    Delivery where
  sends := []
  now := now
  result := .failed index kind (network.elapsedMs start now) error

def executeHttpPostback (index : ℕ) (target : HttpPostbackTarget)
    (zenroom : ZenroomResult) (selectedOutput : Option JsonValue)
    (retries : UInt32) (start : ℕ) : Delivery :=
  match network.parseUrl target.url with
  | .error e =>
      refusal network index "http" start start
        { code := "invalid_url", message := e }
  | .ok url =>
      match validatePostbackUrl network config start url with
      | .error e => refusal network index "http" start (start + 1) e
      | .ok () =>
          match selectPostbackBody network target.body zenroom
              selectedOutput with
          | .error e => refusal network index "http" start (start + 1) e
          | .ok body =>
              attempts network index "http" start (furtherAttempts retries)
                { now := start + 1
                  url := url
                  method := (network.parseMethod
                    (target.method.getD "POST")).getD "POST"
                  headers := target.headers.getD []
                  body := body }

/-- The parameters in order, up to the first that cannot be selected. -/
def selectParams (zenroom : ZenroomResult)
    (selectedOutput : Option JsonValue) :
    List PostbackBodySelector → Except ErrorInfo (List JsonValue)
  | [] => .ok []
  | param :: params =>
      match selectPostbackBody network (some param) zenroom selectedOutput with
      | .error e => .error e
      | .ok body =>
          let value :=
            match body with
            | .json value => value
            | .raw bytes => .string (network.utf8Lossy bytes)
          (selectParams zenroom selectedOutput params).map (value :: ·)

def evmPayload (method : String) (params : List JsonValue) : JsonValue :=
  .object [("jsonrpc", .string "2.0"), ("id", .posInt 1),
    ("method", .string method), ("params", .array params)]

def executeEvmPostback (index : ℕ) (target : EvmJsonRpcTarget)
    (zenroom : ZenroomResult) (selectedOutput : Option JsonValue)
    (retries : UInt32) (start : ℕ) : Delivery :=
  match network.parseUrl target.url with
  | .error e =>
      refusal network index "evm_jsonrpc" start start
        { code := "invalid_url", message := e }
  | .ok url =>
      match validatePostbackUrl network config start url with
      | .error e => refusal network index "evm_jsonrpc" start (start + 1) e
      | .ok () =>
          match selectParams network zenroom selectedOutput target.params with
          | .error e => refusal network index "evm_jsonrpc" start (start + 1) e
          | .ok params =>
              attempts network index "evm_jsonrpc" start
                (furtherAttempts retries)
                { now := start + 1
                  url := url
                  method := "POST"
                  headers := []
                  body := .json (evmPayload target.method params) }

def executePostback (index : ℕ) (target : PostbackTarget)
    (zenroom : ZenroomResult) (selectedOutput : Option JsonValue)
    (retries : UInt32) (start : ℕ) : Delivery :=
  match target with
  | .http target =>
      executeHttpPostback network config index target zenroom selectedOutput
        retries start
  | .evmJsonRpc target =>
      executeEvmPostback network config index target zenroom selectedOutput
        retries start

/-- The loop over the targets: what was sent, and the results. -/
def executeTargets (zenroom : ZenroomResult)
    (selectedOutput : Option JsonValue) (retries : UInt32) :
    ℕ → ℕ → List PostbackTarget → List Send × List PostbackResult
  | _, _, [] => ([], [])
  | index, now, target :: targets =>
      let delivery := executePostback network config index target zenroom
        selectedOutput retries now
      let later := executeTargets zenroom selectedOutput retries (index + 1)
        delivery.now targets
      (delivery.sends ++ later.1, delivery.result :: later.2)

def runPostbacks (postback : PostbackConfig) (zenroom : ZenroomResult)
    (selectedOutput : Option JsonValue) (now : ℕ) :
    List Send × Except ErrorInfo (List PostbackResult) :=
  if !config.postbackEnabled then
    ([], .error {
      code := "postback_disabled"
      message := "Postback is disabled by operator configuration" })
  else if postback.targets.isEmpty then
    if postback.required then
      ([], .error {
        code := "postback_required_missing"
        message := "Postback required but no targets configured" })
    else ([], .ok [])
  else
    let outcome := executeTargets network config zenroom selectedOutput
      postback.retries 0 now postback.targets
    (outcome.1, .ok outcome.2)

/-! ## The allowlist -/

/-- The URL passes the checks on its text. -/
def Allowed (url : Url) : Prop :=
  ∃ hostAndPort, checkUrl config url = .ok hostAndPort

/-- A request inside the allowlist. -/
structure Inside (hop : Hop) : Prop where
  url : Allowed config hop.url
  address : config.postbackBlockPrivateIps = true →
    isPublicIp hop.address = true

/-- The requests that the client makes for these sends. -/
def hops (sends : List Send) : List Hop :=
  sends.flatMap fun send => (follow network maxRedirects send.now send.url).hops

/-- The servers and the DNS answers keep the client inside: where private addresses
are blocked it connects to public ones, and a redirect that it follows leads to
an allowed URL. -/
def Stays : ℕ → ℕ → Url → Prop
  | 0, now, url =>
      ∀ address, connected network now url = some address →
        config.postbackBlockPrivateIps = true → isPublicIp address = true
  | redirects + 1, now, url =>
      ∀ address, connected network now url = some address →
        (config.postbackBlockPrivateIps = true → isPublicIp address = true) ∧
        ∀ location, network.answer now = .redirect location →
          ((connected network (now + 1) location).isSome = true →
              Allowed config location) ∧
            Stays redirects (now + 1) location

variable {network : Network} {config : ZenroomConfig}

theorem allowed_of_validate {now : ℕ} {url : Url}
    (hvalid : validatePostbackUrl network config now url = .ok ()) :
    Allowed config url := by
  unfold validatePostbackUrl at hvalid
  cases hcheck : checkUrl config url with
  | error e => simp [hcheck] at hvalid
  | ok hostAndPort => exact ⟨hostAndPort, hcheck⟩

theorem follow_of_none {redirects now : ℕ} {url : Url}
    (hnone : connected network now url = none) :
    (follow network redirects now url).hops = [] := by
  rw [follow, hnone]

/-- The first request goes to the URL itself. -/
theorem mem_follow_hops (redirects : ℕ) {now : ℕ} {url : Url}
    {address : IpAddr} (hsome : connected network now url = some address) :
    { url := url, address := address } ∈
      (follow network redirects now url).hops := by
  rw [follow, hsome]
  dsimp only
  split <;> exact List.mem_cons_self

theorem follow_zero_hops {now : ℕ} {url : Url} {address : IpAddr}
    (hsome : connected network now url = some address) :
    (follow network 0 now url).hops =
      [{ url := url, address := address }] := by
  rw [follow, hsome]
  cases network.answer now <;> rfl

theorem follow_succ_hops {redirects now : ℕ} {url : Url} {address : IpAddr}
    (hsome : connected network now url = some address) :
    (follow network (redirects + 1) now url).hops =
      { url := url, address := address } ::
        match network.answer now with
        | .redirect location =>
            (follow network redirects (now + 1) location).hops
        | _ => [] := by
  rw [follow, hsome]
  cases network.answer now <;> rfl

/-- From an allowed URL the client stays inside exactly if it is kept there. -/
theorem follow_inside_iff {redirects now : ℕ} {url : Url}
    (hallowed : (connected network now url).isSome = true →
      Allowed config url) :
    (∀ hop ∈ (follow network redirects now url).hops, Inside config hop) ↔
      Stays network config redirects now url := by
  have hfirst : ∀ {url address}, Allowed config url →
      (Inside config { url := url, address := address } ↔
        (config.postbackBlockPrivateIps = true →
          isPublicIp address = true)) :=
    fun hurl => ⟨Inside.address, fun haddress => ⟨hurl, haddress⟩⟩
  induction redirects generalizing now url with
  | zero =>
      cases hconnected : connected network now url with
      | none => simp [follow_of_none hconnected, Stays, hconnected]
      | some address =>
          have hurl := hallowed (by rw [hconnected]; rfl)
          simp [follow_zero_hops hconnected, Stays, hconnected, hfirst hurl]
  | succ redirects ih =>
      cases hconnected : connected network now url with
      | none => simp [follow_of_none hconnected, Stays, hconnected]
      | some address =>
          have hurl := hallowed (by rw [hconnected]; rfl)
          rw [follow_succ_hops hconnected, List.forall_mem_cons, hfirst hurl]
          have hlater : (∀ hop ∈ (match network.answer now with
              | .redirect location =>
                  (follow network redirects (now + 1) location).hops
              | _ => []), Inside config hop) ↔
              ∀ location, network.answer now = .redirect location →
                ((connected network (now + 1) location).isSome = true →
                    Allowed config location) ∧
                  Stays network config redirects (now + 1) location := by
            cases hanswer : network.answer now with
            | failed => simp
            | response response => simp
            | redirect location =>
                constructor
                · rintro hall _ ⟨⟩
                  have hlisted : (connected network (now + 1)
                      location).isSome = true → Allowed config location := by
                    intro hsome
                    obtain ⟨next, hnext⟩ := Option.isSome_iff_exists.mp hsome
                    exact (hall _ (mem_follow_hops redirects hnext)).url
                  exact ⟨hlisted, (ih hlisted).mp hall⟩
                · intro hall
                  obtain ⟨hlisted, hstays⟩ := hall location rfl
                  exact (ih hlisted).mpr hstays
          rw [hlater, Stays, hconnected]
          exact ⟨fun hall other heq => Option.some.inj heq ▸ hall,
            fun hall => hall address rfl⟩

/-! ## The sends -/

theorem attempts_url {index : ℕ} {kind : String} {start left : ℕ}
    {first : Send} :
    ∀ send ∈ (attempts network index kind start left first).sends,
      send.url = first.url := by
  induction left generalizing first with
  | zero =>
      unfold attempts
      cases hresult :
          (follow network maxRedirects first.now first.url).result <;>
        simp [hresult]
  | succ left ih =>
      unfold attempts
      cases hresult :
          (follow network maxRedirects first.now first.url).result with
      | ok response => simp [hresult]
      | error e =>
          simp only [hresult, List.forall_mem_cons, true_and]
          exact ih

/-- The URL passed its check at some time. -/
def Validated (network : Network) (config : ZenroomConfig) (url : Url) :
    Prop :=
  ∃ checked, validatePostbackUrl network config checked url = .ok ()

/-- Nothing is handed to the client but what passed its check. -/
theorem executePostback_validated {index : ℕ} {target : PostbackTarget}
    {zenroom : ZenroomResult} {selectedOutput : Option JsonValue}
    {retries : UInt32} {start : ℕ} :
    ∀ send ∈ (executePostback network config index target zenroom
      selectedOutput retries start).sends,
        Validated network config send.url := by
  have hrefused : ∀ {kind now e}, ∀ send ∈ (refusal network index kind start
      now e).sends, Validated network config send.url := by
    simp [refusal]
  cases target with
  | http target =>
      rw [executePostback, executeHttpPostback]
      split
      · exact hrefused
      · split
        · exact hrefused
        · rename_i url _ _ hvalid
          split
          · exact hrefused
          · intro send hmem
            rw [attempts_url send hmem]
            exact ⟨start, hvalid⟩
  | evmJsonRpc target =>
      rw [executePostback, executeEvmPostback]
      split
      · exact hrefused
      · split
        · exact hrefused
        · rename_i url _ _ hvalid
          split
          · exact hrefused
          · intro send hmem
            rw [attempts_url send hmem]
            exact ⟨start, hvalid⟩

theorem executeTargets_validated {zenroom : ZenroomResult}
    {selectedOutput : Option JsonValue} {retries : UInt32} {index now : ℕ}
    {targets : List PostbackTarget} :
    ∀ send ∈ (executeTargets network config zenroom selectedOutput retries
      index now targets).1, Validated network config send.url := by
  induction targets generalizing index now with
  | nil => simp [executeTargets]
  | cons target targets ih =>
      rw [executeTargets, List.forall_mem_append]
      exact ⟨executePostback_validated, ih⟩

theorem runPostbacks_validated {postback : PostbackConfig}
    {zenroom : ZenroomResult} {selectedOutput : Option JsonValue} {now : ℕ} :
    ∀ send ∈ (runPostbacks network config postback zenroom selectedOutput
      now).1, Validated network config send.url := by
  rw [runPostbacks]
  split_ifs
  · simp
  · simp
  · simp
  · exact executeTargets_validated

/-- For every configuration, every DNS answer and every answer of the servers: all
requests are inside the allowlist exactly if the client is kept there on each
send. -/
theorem postbacks_inside_iff (network : Network) (config : ZenroomConfig)
    (postback : PostbackConfig) (zenroom : ZenroomResult)
    (selectedOutput : Option JsonValue) (now : ℕ) :
    (∀ hop ∈ hops network (runPostbacks network config postback zenroom
      selectedOutput now).1, Inside config hop) ↔
      ∀ send ∈ (runPostbacks network config postback zenroom selectedOutput
        now).1, Stays network config maxRedirects send.now send.url := by
  simp only [hops, List.forall_mem_flatMap]
  refine forall_congr' fun send => imp_congr_right fun hmem => ?_
  obtain ⟨checked, hvalid⟩ := runPostbacks_validated send hmem
  exact follow_inside_iff fun _ => allowed_of_validate hvalid

/-! ## The results -/

def PostbackTarget.kind : PostbackTarget → String
  | .http _ => "http"
  | .evmJsonRpc _ => "evm_jsonrpc"

theorem attempts_target {index : ℕ} {kind : String} {start left : ℕ}
    {first : Send} :
    (attempts network index kind start left first).result.targetIndex = index ∧
      (attempts network index kind start left first).result.kind = kind := by
  induction left generalizing first with
  | zero =>
      unfold attempts
      cases hresult :
          (follow network maxRedirects first.now first.url).result <;>
        simp [hresult, PostbackResult.failed]
  | succ left ih =>
      unfold attempts
      cases hresult :
          (follow network maxRedirects first.now first.url).result with
      | ok response => simp [hresult]
      | error e => simpa only [hresult] using ih

/-- The result of a target is marked with it. -/
theorem executePostback_target {index : ℕ} {target : PostbackTarget}
    {zenroom : ZenroomResult} {selectedOutput : Option JsonValue}
    {retries : UInt32} {start : ℕ} :
    (executePostback network config index target zenroom selectedOutput
        retries start).result.targetIndex = index ∧
      (executePostback network config index target zenroom selectedOutput
        retries start).result.kind = target.kind := by
  cases target with
  | http target =>
      rw [executePostback, executeHttpPostback]
      split
      · exact ⟨rfl, rfl⟩
      · split
        · exact ⟨rfl, rfl⟩
        · split
          · exact ⟨rfl, rfl⟩
          · exact attempts_target
  | evmJsonRpc target =>
      rw [executePostback, executeEvmPostback]
      split
      · exact ⟨rfl, rfl⟩
      · split
        · exact ⟨rfl, rfl⟩
        · split
          · exact ⟨rfl, rfl⟩
          · exact attempts_target

theorem executeTargets_targets {zenroom : ZenroomResult}
    {selectedOutput : Option JsonValue} {retries : UInt32} {index now : ℕ}
    {targets : List PostbackTarget} :
    (executeTargets network config zenroom selectedOutput retries index now
        targets).2.map (fun result => (result.kind, result.targetIndex)) =
      (targets.zipIdx index).map fun target =>
        (target.1.kind, target.2) := by
  induction targets generalizing index now with
  | nil => rfl
  | cons target targets ih =>
      rw [executeTargets, List.map_cons, List.zipIdx_cons, List.map_cons, ih,
        executePostback_target.1, executePostback_target.2]

/-- The results stand for the targets in their order, and there are some where they
are required. -/
theorem runPostbacks_targets {postback : PostbackConfig}
    {zenroom : ZenroomResult} {selectedOutput : Option JsonValue} {now : ℕ}
    {results : List PostbackResult}
    (hresults : (runPostbacks network config postback zenroom selectedOutput
      now).2 = .ok results) :
    results.map (fun result => (result.kind, result.targetIndex)) =
        postback.targets.zipIdx.map (fun target =>
          (target.1.kind, target.2)) ∧
      (postback.required = true → postback.targets ≠ []) := by
  rw [runPostbacks] at hresults
  split_ifs at hresults with hdisabled hempty hrequired
  · cases hresults
    rw [List.isEmpty_iff.mp hempty]
    exact ⟨rfl, fun hreq => absurd hreq hrequired⟩
  · cases hresults
    exact ⟨executeTargets_targets, fun _ hnil => by simp [hnil] at hempty⟩

/-! ## When nothing changes after the check -/

theorem checkUrl_ok {url : Url} {host : String} {port : ℕ}
    (hcheck : checkUrl config url = .ok (host, port)) :
    url.host = some host ∧ url.portOrKnownDefault = some port := by
  unfold checkUrl at hcheck
  split at hcheck
  · cases hcheck
  · split at hcheck
    · cases hcheck
    · rename_i hport
      split at hcheck
      · cases hcheck
      · split at hcheck
        · cases hcheck
        · rename_i hhost
          split at hcheck
          · cases hcheck
          · split at hcheck
            · cases hcheck
            · obtain ⟨rfl, rfl⟩ := Prod.mk.inj (Except.ok.inj hcheck)
              exact ⟨hhost, hport⟩

/-- The same DNS answers at all times. -/
def Network.Steady (network : Network) : Prop :=
  ∀ now later host port,
    network.lookupHost now host port = network.lookupHost later host port

theorem connected_public (hsteady : network.Steady) {url : Url}
    (hvalid : Validated network config url)
    (hblock : config.postbackBlockPrivateIps = true) {now : ℕ}
    {address : IpAddr}
    (hconnected : connected network now url = some address) :
    isPublicIp address = true := by
  obtain ⟨checked, hvalid⟩ := hvalid
  unfold validatePostbackUrl at hvalid
  cases hcheck : checkUrl config url with
  | error e => simp [hcheck] at hvalid
  | ok hostAndPort =>
      obtain ⟨host, port⟩ := hostAndPort
      obtain ⟨hhost, hport⟩ := checkUrl_ok hcheck
      have hsame : resolveHostIps network now host port =
          resolveHostIps network checked host port := by
        unfold resolveHostIps
        rw [hsteady now checked]
      simp only [hcheck, hblock, if_true] at hvalid
      simp only [connected, hhost, hport, hsame] at hconnected
      cases hresolve : resolveHostIps network checked host port with
      | error e => simp [hresolve] at hvalid
      | ok addresses =>
          simp only [hresolve] at hvalid hconnected
          have hmem : address ∈ addresses := List.mem_of_getElem? hconnected
          cases hprivate : addresses.find? fun ip => !isPublicIp ip with
          | some ip => simp [hprivate] at hvalid
          | none =>
              have hpublic := List.find?_eq_none.mp hprivate address hmem
              simpa using hpublic

/-- With steady DNS answers and without redirects the one check is enough. -/
theorem sends_stay_of_steady (hsteady : network.Steady)
    (hdirect : ∀ now location, network.answer now ≠ .redirect location)
    (postback : PostbackConfig) (zenroom : ZenroomResult)
    (selectedOutput : Option JsonValue) (now : ℕ) :
    ∀ send ∈ (runPostbacks network config postback zenroom selectedOutput
      now).1, Stays network config maxRedirects send.now send.url := by
  intro send hmem
  have hvalid := runPostbacks_validated send hmem
  intro address hconnected
  exact ⟨fun hblock => connected_public hsteady hvalid hblock hconnected,
    fun location hredirect => absurd hredirect (hdirect send.now location)⟩

/-! ## A redirect and a second answer -/

def hooksUrl : Url where
  scheme := "https"
  host := some "hooks.example.com"
  port := none
  path := "/a"

def metadataUrl : Url where
  scheme := "http"
  host := some "169.254.169.254"
  port := none
  path := "/latest/meta-data"

def sampleConfig : ZenroomConfig where
  postbackEnabled := true
  postbackAllowedHostSuffixes := ["example.com"]
  postbackAllowedSchemes := ["https"]
  postbackAllowedPorts := [443]
  postbackBlockPrivateIps := true

def samplePostback : PostbackConfig where
  required := true
  retries := 0
  targets := [.http {
    url := "https://hooks.example.com/a"
    method := none
    headers := none
    body := some { source := "stdout", jsonPointer := none } }]

def sampleZenroom : ZenroomResult where
  stdout := "ok"
  stdoutJson := none

def sampleNetwork (lookupHost : ℕ → IpAddr) (answer : ℕ → Answer) :
    Network where
  parseUrl := fun text =>
    if text = "https://hooks.example.com/a" then .ok hooksUrl
    else .error "relative URL without a base"
  parseIp := fun host =>
    if host = "169.254.169.254" then some (.v4 (ipv4 169 254 169 254))
    else none
  displayIp := fun _ => "address"
  parseMethod := some
  jsonPointer := fun _ _ => none
  utf8Lossy := fun _ => ""
  lookupHost := fun now _ _ => .ok [lookupHost now]
  choose := fun _ => 0
  answer := answer
  requestError := fun _ => "error sending request"
  elapsedMs := fun start now => now - start

def publicAddress : IpAddr := .v4 (ipv4 93 184 216 34)

def localAddress : IpAddr := .v4 (ipv4 127 0 0 1)

/-- The server of an allowed URL redirects to the metadata service. -/
def redirecting : Network :=
  sampleNetwork (fun _ => publicAddress) fun now =>
    if now = 1 then .redirect metadataUrl
    else .response { status := 200, body := .ok [] }

/-- The host has a public address for the check and a local one for the client. -/
def rebinding : Network :=
  sampleNetwork (fun now => if now = 0 then publicAddress else localAddress)
    fun _ => .response { status := 200, body := .ok [] }

theorem postbacks_outside :
    (hops redirecting (runPostbacks redirecting sampleConfig samplePostback
        sampleZenroom none 0).1 =
      [{ url := hooksUrl, address := publicAddress },
        { url := metadataUrl, address := .v4 (ipv4 169 254 169 254) }] ∧
      ¬∀ hop ∈ hops redirecting (runPostbacks redirecting sampleConfig
        samplePostback sampleZenroom none 0).1, Inside sampleConfig hop) ∧
    hops rebinding (runPostbacks rebinding sampleConfig samplePostback
        sampleZenroom none 0).1 =
      [{ url := hooksUrl, address := localAddress }] ∧
      ¬∀ hop ∈ hops rebinding (runPostbacks rebinding sampleConfig
        samplePostback sampleZenroom none 0).1, Inside sampleConfig hop := by
  have hredirected : hops redirecting (runPostbacks redirecting sampleConfig
      samplePostback sampleZenroom none 0).1 =
        [{ url := hooksUrl, address := publicAddress },
          { url := metadataUrl, address := .v4 (ipv4 169 254 169 254) }] := by
    decide +kernel
  have hrebound : hops rebinding (runPostbacks rebinding sampleConfig
      samplePostback sampleZenroom none 0).1 =
        [{ url := hooksUrl, address := localAddress }] := by
    decide +kernel
  refine ⟨⟨hredirected, fun hall => ?_⟩, hrebound, fun hall => ?_⟩
  · rw [hredirected, List.forall_mem_cons, List.forall_mem_singleton] at hall
    obtain ⟨hostAndPort, hallowed⟩ := hall.2.url
    have hdenied : checkUrl sampleConfig metadataUrl = .error {
        code := "postback_scheme_denied"
        message := "Scheme 'http' not allowed" } := by
      decide +kernel
    rw [hdenied] at hallowed
    cases hallowed
  · rw [hrebound, List.forall_mem_singleton] at hall
    exact absurd (hall.address rfl) (by decide +kernel)

end NxccBridge.Postback
