import NxccBridge.Core.Base64
import NxccBridge.Core.Indexing
import NxccBridge.Daemon.SecretsService
import NxccBridge.Interface.WorkerBundle

/-!
# Fetching a worker bundle

`fetch_worker_bundle` of `node/daemon/src/policy.rs`.  The source of a bundle is a
file, an HTTP resource or a data URL; whatever its bytes are, they are compared
with the hash of the pointer and read as an envelope.
-/

namespace NxccBridge.BundleFetch

open NxccBridge.DaemonSecrets (AppError)
open NxccBridge.Framing
open NxccBridge.Indexing
open NxccBridge.Worker

/-! ## URLs and paths -/

/-- A `url::Url` with its text.  The scheme ends at the first colon. -/
structure SourceUrl where
  text : List Char
  ascii : text.all fun char => decide (char.toNat < 128)
  colon : text.contains ':'

def SourceUrl.asStr (url : SourceUrl) : String := String.ofList url.text

def SourceUrl.scheme (url : SourceUrl) : List Char :=
  url.text.takeWhile (· ≠ ':')

structure WorkerBundlePointer where
  source : SourceUrl
  hash : Option Bytes

/-- `std::path::Path`, as its root and the components behind it. -/
structure Path where
  root : Bool
  components : List (List Char)

namespace Path

def ofText (text : List Char) : Path where
  root := text.head? = some '/'
  components := (text.splitOn '/').filter fun component =>
    component ≠ [] ∧ component ≠ ['.']

def join (self other : Path) : Path :=
  if other.root then other
  else { self with components := self.components ++ other.components }

def fileName (self : Path) : Option (List Char) :=
  self.components.getLast?.filter (· ≠ ['.', '.'])

def parent (self : Path) : Option Path :=
  if self.components.isEmpty then none
  else some { self with components := self.components.dropLast }

/-- What follows the last dot of the file name, unless the name starts there. -/
def extension (self : Path) : Option (List Char) :=
  self.fileName.bind fun name =>
    let behind := (name.reverse.takeWhile (· ≠ '.')).reverse
    if behind.length + 1 < name.length then some behind else none

end Path

/-- `Option::unwrap`. -/
def unwrap {A : Type} : Option A → Outcome A
  | some value => .ok value
  | none => .panic

/-- `&text[0..stop]` of an ASCII text. -/
def sliceTo (text : List Char) (stop : ℕ) : Outcome (List Char) :=
  if stop ≤ text.length then .ok (text.take stop) else .panic

/-! ## Data URLs -/

def stripPrefix (start text : List Char) : Option (List Char) :=
  if start.isPrefixOf text then some (text.drop start.length) else none

def splitOnce (separator : Char) : List Char → Option (List Char × List Char)
  | [] => none
  | char :: rest =>
      if char = separator then some ([], rest)
      else (splitOnce separator rest).map fun parts =>
        (char :: parts.1, parts.2)

def hexValue (byte : Byte) : Option ℕ :=
  if 48 ≤ byte.val ∧ byte.val ≤ 57 then some (byte.val - 48)
  else if 65 ≤ byte.val ∧ byte.val ≤ 70 then some (byte.val - 55)
  else if 97 ≤ byte.val ∧ byte.val ≤ 102 then some (byte.val - 87)
  else none

/-- The byte that three characters escape. -/
def escapedByte (percent high low : Byte) : Option Byte :=
  if percent = 37 then do
    let high ← hexValue high
    let low ← hexValue low
    some (Fin.ofNat 256 (16 * high + low))
  else none

/-- A percent sign without two digits behind it stands for itself. -/
def percentDecode : Bytes → Bytes
  | percent :: high :: low :: rest =>
      match escapedByte percent high low with
      | some byte => byte :: percentDecode rest
      | none => percent :: percentDecode (high :: low :: rest)
  | bytes => bytes

variable (codecs : Codecs)

def decodeDataUrl (url : List Char) : Except AppError Bytes :=
  match stripPrefix "data:".toList url with
  | none => .error (.service ("Invalid data URL: " ++ String.ofList url))
  | some withoutScheme =>
      match splitOnce ',' withoutScheme with
      | none => .error (.service ("Invalid data URL: " ++ String.ofList url))
      | some (metaPart, data) =>
          if ";base64".toList.isSuffixOf metaPart then
            (codecs.base64Decode (String.ofList data)).mapError fun e =>
              .service ("Failed to decode base64 data URL " ++
                String.ofList url ++ ": " ++ e)
          else .ok (percentDecode (utf8 (String.ofList data)))

/-! ## The environment -/

structure Response where
  status : ℕ
  body : Except String Bytes

/-- What a call finds outside: whether `info` events are recorded, the file
system, the URL library, the servers and the default of the configuration. -/
structure Outside where
  infoEnabled : Bool
  currentDir : Except String Unit
  /-- `CARGO_MANIFEST_DIR`, or the directory found instead. -/
  manifestDir : Path
  mockManifestDir : Path
  readFile : Path → Except String Bytes
  display : Path → String
  parseUrl : String → Except String SourceUrl
  joinUrl : SourceUrl → List Char → Except String SourceUrl
  urlPath : SourceUrl → List Char
  get : SourceUrl → Except String Response
  formatStatus : ℕ → String
  /-- The member `vm` of a JSON object, when it is a string. -/
  vmOfManifest : Bytes → Option String
  defaultVmId : String

variable (outside : Outside)

/-! ## Files -/

/-- A path under a directory, or beside it when it is the daemon's own. -/
def Path.besideDaemon (manifestDir path : Path) : Outcome Path :=
  if manifestDir.fileName = some "daemon".toList then do
    let parent ← unwrap manifestDir.parent
    .ok (parent.join path)
  else .ok (manifestDir.join path)

def withoutSlash (path : List Char) : List Char :=
  (stripPrefix ['/'] path).getD path

/-- Where the file of a `file` URL is. -/
def bundlePath (source : SourceUrl) (manifestUrl : List Char) :
    Outcome (Except AppError Path) :=
  let path := Path.ofText (withoutSlash (outside.urlPath source))
  match outside.currentDir with
  | .error e =>
      .ok (.error (.internal ("Failed to get current directory: " ++ e)))
  | .ok () =>
      if path.root then .ok (.ok path)
      else if "mock://".toList.isPrefixOf manifestUrl then do
        let path ← outside.manifestDir.besideDaemon path
        .ok (.ok path)
      else
        match outside.parseUrl (String.ofList manifestUrl) with
        | .error e =>
            .ok (.error (.service
              ("Invalid base URL for relative bundle path: " ++ e)))
        | .ok baseUrl =>
            match outside.joinUrl baseUrl (outside.urlPath source) with
            | .error e =>
                .ok (.error (.service
                  ("Failed to join URL for bundle: " ++ e)))
            | .ok joinedUrl =>
                .ok (.ok (Path.ofText
                  (withoutSlash (outside.urlPath joinedUrl))))

def inferVmFromExtension (path : Path) : Option String := do
  let extension ← path.extension
  let extension := String.ofList (extension.map Char.toLower)
  if extension ∈ ["zen", "zencode", "lua"] then some "nxcc/zenroom"
  else if extension ∈ ["js", "mjs", "cjs", "wasm"] then some "nxcc/workerd"
  else none

/-- What the manifest behind a URL says about the VM. -/
def manifestVmHint (manifestUrl : List Char) : Outcome (Option String) :=
  if "mock://".toList.isPrefixOf manifestUrl then do
    let path ← outside.mockManifestDir.besideDaemon
      (Path.ofText "tests/policy/mock_policy.json".toList)
    .ok ((outside.readFile path).toOption.bind outside.vmOfManifest)
  else if "data:".toList.isPrefixOf manifestUrl then
    .ok ((decodeDataUrl codecs manifestUrl).toOption.bind
      outside.vmOfManifest)
  else if "file:".toList.isPrefixOf manifestUrl then
    .ok do
      let url ← (outside.parseUrl (String.ofList manifestUrl)).toOption
      let path := Path.ofText (withoutSlash (outside.urlPath url))
      let bytes ← (outside.readFile path).toOption
      outside.vmOfManifest bytes
  else .ok none

def signatureJson (entry : DsseSignatureEntry) : Bytes :=
  Json.object ((entry.keyId.map fun keyId =>
    (utf8 "keyid", Json.string (utf8 keyId))).toList ++
      [(utf8 "sig", Json.string (utf8 entry.sig))])

def envelopeJson (envelope : DsseEnvelope) : Bytes :=
  Json.object [
    (utf8 "payload", Json.string (utf8 envelope.payload)),
    (utf8 "payloadType", Json.string (utf8 envelope.payloadType)),
    (utf8 "signatures", utf8 "[" ++
      (utf8 ",").intercalate (envelope.signatures.map signatureJson) ++
      utf8 "]")]

/-- The envelope around a raw executable. -/
def mockEnvelope (vm : String) (executable : Bytes) : Bytes :=
  envelopeJson {
    payload := codecs.base64Encode
      (payloadJson codecs ⟨vm, executable, ⟨[], by simp⟩⟩ [])
    payloadType := dsseWorkerBundlePayloadType
    signatures := [{
      keyId := some "mock_policy_key_id"
      sig := codecs.base64Encode
        (utf8 "mock_policy_signature_bytes_longer_than_32_for_base64") }] }

def rawExtensions : List String :=
  ["js", "mjs", "cjs", "wasm", "zen", "zencode", "lua"]

def readBundleFile (path : Path) (manifestUrl : List Char) :
    Outcome (Except AppError Bytes) :=
  match outside.readFile path with
  | .error e =>
      .ok (.error (.io ("Failed to read worker bundle file '" ++
        outside.display path ++ "': " ++ e)))
  | .ok content =>
      if path.extension.any fun extension =>
          String.ofList extension ∈ rawExtensions then do
        let hint ← manifestVmHint codecs outside manifestUrl
        let vm := (hint.or (inferVmFromExtension path)).getD
          outside.defaultVmId
        .ok (.ok (mockEnvelope codecs vm content))
      else .ok (.ok content)

/-! ## The bundle -/

def httpBundle (source : SourceUrl) : Except AppError Bytes :=
  match outside.get source with
  | .error e =>
      .error (.network ("Failed to fetch worker bundle from " ++
        source.asStr ++ ": " ++ e))
  | .ok response =>
      if ¬ (200 ≤ response.status ∧ response.status < 300) then
        .error (.network ("Failed to fetch worker bundle from " ++
          source.asStr ++ ": Status " ++
          outside.formatStatus response.status))
      else
        response.body.mapError fun e =>
          .network ("Failed to read bundle bytes from " ++ source.asStr ++
            ": " ++ e)

/-- The bytes at the source, by its scheme. -/
def dsseEnvelopeBytes (source : SourceUrl) (manifestUrl : List Char) :
    Outcome (Except AppError Bytes) :=
  if source.scheme = "file".toList then do
    match ← bundlePath outside source manifestUrl with
    | .error e => .ok (.error e)
    | .ok path => readBundleFile codecs outside path manifestUrl
  else if "http".toList.isPrefixOf source.scheme then
    .ok (httpBundle outside source)
  else if source.scheme = "data".toList then
    .ok (decodeDataUrl codecs source.text)
  else
    .ok (.error (.service ("Unsupported bundle source scheme: " ++
      String.ofList source.scheme)))

def hexEncode (bytes : Bytes) : String :=
  String.ofList (bytes.flatMap fun byte =>
    [Nat.digitChar (byte.val / 16), Nat.digitChar (byte.val % 16)])

/-- The checks on the bytes: the hash of the pointer, and the envelope. -/
def checkBundle (pointer : WorkerBundlePointer) (bytes : Bytes) :
    Except AppError WorkerBundle :=
  match pointer.hash.filter (codecs.sha512 bytes ≠ ·) with
  | some expected =>
      .error (.service ("WorkerBundle (DSSE envelope) hash mismatch for " ++
        pointer.source.asStr ++ ". Expected " ++ hexEncode expected ++
        ", got " ++ hexEncode (codecs.sha512 bytes)))
  | none =>
      match (WorkerBundle.mk bytes).payload codecs with
      | .error e =>
          .error (.validation
            ("WorkerBundle payload is invalid: " ++ e.display))
      | .ok _ => .ok ⟨bytes⟩

def fetchWorkerBundle (pointer : WorkerBundlePointer)
    (manifestUrl : List Char) : Outcome (Except AppError WorkerBundle) := do
  -- the arguments of an `info` event are evaluated when it is recorded
  if outside.infoEnabled then
    let _ ← sliceTo pointer.source.text 20
  match ← dsseEnvelopeBytes codecs outside pointer.source manifestUrl with
  | .error e => .ok (.error e)
  | .ok bytes => .ok (checkBundle codecs pointer bytes)

/-! ## No panic behind the first line -/

open Outcome

/-- A directory with a name has a parent. -/
theorem besideDaemon_returns (manifestDir path : Path) :
    Returns (manifestDir.besideDaemon path) fun _ => True := by
  rw [Path.besideDaemon]
  split_ifs with hname
  · have hparent : ∃ parent, manifestDir.parent = some parent := by
      cases hcomponents : manifestDir.components with
      | nil => simp [Path.fileName, hcomponents] at hname
      | cons first rest => simp [Path.parent, hcomponents]
    obtain ⟨parent, hparent⟩ := hparent
    rw [hparent]
    exact trivial
  · exact trivial

theorem manifestVmHint_returns (manifestUrl : List Char) :
    Returns (manifestVmHint codecs outside manifestUrl) fun _ => True := by
  rw [manifestVmHint]
  split_ifs
  · exact (besideDaemon_returns _ _).bind fun _ _ => trivial
  all_goals exact trivial

theorem bundlePath_returns (source : SourceUrl) (manifestUrl : List Char) :
    Returns (bundlePath outside source manifestUrl) fun _ => True := by
  rw [bundlePath]
  split
  · exact trivial
  · split_ifs
    · exact trivial
    · exact (besideDaemon_returns _ _).bind fun _ _ => trivial
    · split
      · exact trivial
      · split <;> exact trivial

theorem readBundleFile_returns (path : Path) (manifestUrl : List Char) :
    Returns (readBundleFile codecs outside path manifestUrl)
      fun _ => True := by
  rw [readBundleFile]
  split
  · exact trivial
  · split_ifs
    · exact (manifestVmHint_returns codecs outside manifestUrl).bind
        fun _ _ => trivial
    · exact trivial

theorem dsseEnvelopeBytes_returns (source : SourceUrl)
    (manifestUrl : List Char) :
    Returns (dsseEnvelopeBytes codecs outside source manifestUrl)
      fun _ => True := by
  rw [dsseEnvelopeBytes]
  split_ifs
  · refine (bundlePath_returns outside source manifestUrl).bind
      fun path _ => ?_
    cases path with
    | error e => exact trivial
    | ok path => exact readBundleFile_returns codecs outside path manifestUrl
  all_goals exact trivial

/-- The slice in the log line is the only thing that can panic. -/
theorem fetchWorkerBundle_ne_panic_iff (pointer : WorkerBundlePointer)
    (manifestUrl : List Char) :
    fetchWorkerBundle codecs outside pointer manifestUrl ≠ .panic ↔
      (outside.infoEnabled = true → 20 ≤ pointer.source.text.length) := by
  have hrest : Returns (do
      match ← dsseEnvelopeBytes codecs outside pointer.source manifestUrl with
      | .error e => .ok (.error e)
      | .ok bytes => .ok (checkBundle codecs pointer bytes))
      fun _ => True := by
    refine (dsseEnvelopeBytes_returns codecs outside pointer.source
      manifestUrl).bind fun bytes _ => ?_
    cases bytes with
    | error e => exact trivial
    | ok bytes => exact trivial
  rw [fetchWorkerBundle]
  cases outside.infoEnabled with
  | false => simpa using hrest.ne_panic
  | true =>
      by_cases hlength : 20 ≤ pointer.source.text.length
      · simpa [sliceTo, hlength] using hrest.ne_panic
      · simp [sliceTo, hlength]

/-! ## Data URLs of bundles -/

theorem stripPrefix_append (start rest : List Char) :
    stripPrefix start (start ++ rest) = some rest := by
  have hprefix : start.isPrefixOf (start ++ rest) = true :=
    List.isPrefixOf_iff_prefix.mpr (List.prefix_append start rest)
  rw [stripPrefix, if_pos hprefix, List.drop_left]

theorem splitOnce_append {separator : Char} {before : List Char}
    (hbefore : separator ∉ before) (after : List Char) :
    splitOnce separator (before ++ separator :: after) =
      some (before, after) := by
  induction before with
  | nil => simp [splitOnce]
  | cons first rest ih =>
      have hfirst : first ≠ separator := fun heq => hbefore (by simp [heq])
      rw [List.cons_append, splitOnce, if_neg hfirst,
        ih fun hmem => hbefore (List.mem_cons_of_mem first hmem)]
      rfl

/-- In a data URL the media type ends at the first comma. -/
structure MediaType where
  text : List Char
  noComma : ',' ∉ text

/-- `data:<media type>;base64,<base64>`. -/
def dataUrl (mediaType : MediaType) (bytes : Bytes) : List Char :=
  "data:".toList ++ ((mediaType.text ++ ";base64".toList) ++
    ',' :: (codecs.base64Encode bytes).toList)

theorem decodeDataUrl_dataUrl (mediaType : MediaType) (bytes : Bytes) :
    (decodeDataUrl codecs (dataUrl codecs mediaType bytes)).toOption =
      (codecs.base64Decode (codecs.base64Encode bytes)).toOption := by
  have hcomma : ',' ∉ mediaType.text ++ ";base64".toList := by
    rw [List.mem_append, not_or]
    exact ⟨mediaType.noComma, by decide⟩
  have hsuffix : ";base64".toList.isSuffixOf
      (mediaType.text ++ ";base64".toList) = true :=
    List.isSuffixOf_iff_suffix.mpr (List.suffix_append _ _)
  rw [decodeDataUrl, dataUrl, stripPrefix_append]
  dsimp only
  rw [splitOnce_append hcomma]
  simp only [hsuffix, if_true, String.ofList_toList]
  cases codecs.base64Decode (codecs.base64Encode bytes) <;> rfl

theorem dsseEnvelopeBytes_dataUrl {source : SourceUrl}
    {mediaType : MediaType} {bytes : Bytes}
    (hsource : source.text = dataUrl codecs mediaType bytes)
    (manifestUrl : List Char) :
    dsseEnvelopeBytes codecs outside source manifestUrl =
      .ok (decodeDataUrl codecs source.text) := by
  have hscheme : source.scheme = "data".toList := by
    rw [SourceUrl.scheme, hsource]
    simp [dataUrl]
  rw [dsseEnvelopeBytes, hscheme, if_neg (by decide), if_neg (by decide),
    if_pos rfl]

/-! ## What is accepted -/

/-- An envelope of a worker bundle with a readable payload, under the hash if the
pointer has one. -/
structure Acceptable (hash : Option Bytes) (bytes : Bytes) : Prop where
  envelope : ∃ envelope payloadBytes payload,
    codecs.parseEnvelope bytes = .ok envelope ∧
      envelope.payloadType = dsseWorkerBundlePayloadType ∧
      codecs.base64Decode envelope.payload = .ok payloadBytes ∧
      codecs.parsePayload payloadBytes = .ok payload
  hash : ∀ expected, hash = some expected → expected = codecs.sha512 bytes

theorem payload_isOk_iff (bundle : WorkerBundle) :
    (∃ payload, bundle.payload codecs = .ok payload) ↔
      ∃ envelope payloadBytes payload,
        codecs.parseEnvelope bundle.bytes = .ok envelope ∧
          envelope.payloadType = dsseWorkerBundlePayloadType ∧
          codecs.base64Decode envelope.payload = .ok payloadBytes ∧
          codecs.parsePayload payloadBytes = .ok payload := by
  rw [WorkerBundle.payload, WorkerBundle.dsseEnvelope]
  cases henvelope : codecs.parseEnvelope bundle.bytes with
  | error e => simp [Except.mapError]
  | ok envelope =>
      by_cases htype : envelope.payloadType = dsseWorkerBundlePayloadType
      · cases hpayload : codecs.base64Decode envelope.payload with
        | error e => simp [Except.mapError, htype, hpayload]
        | ok payloadBytes =>
            cases hparsed : codecs.parsePayload payloadBytes with
            | error e => simp [Except.mapError, htype, hpayload, hparsed]
            | ok payload => simp [Except.mapError, htype, hpayload, hparsed]
      · simp [Except.mapError, htype]

theorem hash_matches_iff (hash : Option Bytes) (bytes : Bytes) :
    hash.filter (codecs.sha512 bytes ≠ ·) = none ↔
      ∀ expected, hash = some expected → expected = codecs.sha512 bytes := by
  rw [Option.filter_eq_none_iff]
  refine forall₂_congr fun expected _ => ?_
  rw [decide_eq_true_eq, not_not, eq_comm]

theorem checkBundle_cases (pointer : WorkerBundlePointer) (bytes : Bytes) :
    (Acceptable codecs pointer.hash bytes ∧
        checkBundle codecs pointer bytes = .ok ⟨bytes⟩) ∨
      (¬ Acceptable codecs pointer.hash bytes ∧
        ∃ e, checkBundle codecs pointer bytes = .error e) := by
  have hhash := hash_matches_iff codecs pointer.hash bytes
  have hpayload := payload_isOk_iff codecs ⟨bytes⟩
  rw [checkBundle]
  cases hmatch : pointer.hash.filter (codecs.sha512 bytes ≠ ·) with
  | some expected =>
      refine .inr ⟨fun haccept => ?_, _, rfl⟩
      rw [hhash.mpr haccept.hash] at hmatch
      cases hmatch
  | none =>
      cases hread : (WorkerBundle.mk bytes).payload codecs with
      | error e =>
          refine .inr ⟨fun haccept => ?_, _, rfl⟩
          obtain ⟨payload, hok⟩ := hpayload.mpr haccept.envelope
          rw [hread] at hok
          cases hok
      | ok payload =>
          exact .inl ⟨⟨hpayload.mp ⟨payload, hread⟩, hhash.mp hmatch⟩, rfl⟩

/-- What a source asks of a call, whatever its scheme, and what it asks of the
data URL of some bytes. -/
structure BundleLoading (pointer : WorkerBundlePointer)
    (manifestUrl : List Char) : Prop where
  noPanic : fetchWorkerBundle codecs outside pointer manifestUrl ≠ .panic
  accepts : ∀ mediaType bytes,
    pointer.source.text = dataUrl codecs mediaType bytes →
      (fetchWorkerBundle codecs outside pointer manifestUrl =
          .ok (.ok ⟨bytes⟩) ↔
        Acceptable codecs pointer.hash bytes)
  rejects : ∀ mediaType bytes,
    pointer.source.text = dataUrl codecs mediaType bytes →
      ¬ Acceptable codecs pointer.hash bytes →
        ∃ e, fetchWorkerBundle codecs outside pointer manifestUrl =
          .ok (.error e)

/-- The bytes of a data URL reach the checks. -/
theorem fetchWorkerBundle_dataUrl
    (hbase64 : ∀ bytes,
      codecs.base64Decode (codecs.base64Encode bytes) = .ok bytes)
    {pointer : WorkerBundlePointer} {manifestUrl : List Char}
    (hlength : outside.infoEnabled = true → 20 ≤ pointer.source.text.length)
    {mediaType : MediaType} {bytes : Bytes}
    (hsource : pointer.source.text = dataUrl codecs mediaType bytes) :
    fetchWorkerBundle codecs outside pointer manifestUrl =
      .ok (checkBundle codecs pointer bytes) := by
  have hdecoded : decodeDataUrl codecs pointer.source.text = .ok bytes := by
    have hoption := decodeDataUrl_dataUrl codecs mediaType bytes
    rw [← hsource, hbase64] at hoption
    cases hresult : decodeDataUrl codecs pointer.source.text with
    | error e => simp [hresult, Except.toOption] at hoption
    | ok decoded => simpa [hresult, Except.toOption] using hoption
  have hbytes := dsseEnvelopeBytes_dataUrl codecs outside hsource manifestUrl
  rw [hdecoded] at hbytes
  rw [fetchWorkerBundle, hbytes]
  cases hinfo : outside.infoEnabled with
  | false => rfl
  | true => simp [sliceTo, hlength hinfo]

theorem bundleLoading_iff
    (hbase64 : ∀ bytes,
      codecs.base64Decode (codecs.base64Encode bytes) = .ok bytes)
    (pointer : WorkerBundlePointer) (manifestUrl : List Char) :
    BundleLoading codecs outside pointer manifestUrl ↔
      (outside.infoEnabled = true → 20 ≤ pointer.source.text.length) := by
  rw [← fetchWorkerBundle_ne_panic_iff codecs outside pointer manifestUrl]
  refine ⟨BundleLoading.noPanic, fun hpanic => ⟨hpanic, ?_, ?_⟩⟩
  all_goals
    intro mediaType bytes hsource
    rw [fetchWorkerBundle_dataUrl codecs outside hbase64
      ((fetchWorkerBundle_ne_panic_iff ..).mp hpanic) hsource]
    rcases checkBundle_cases codecs pointer bytes with
      ⟨haccept, hok⟩ | ⟨hreject, e, herror⟩
  · simp [hok, haccept]
  · simp [herror, hreject]
  · exact fun hreject => absurd haccept hreject
  · exact fun _ => ⟨e, by rw [herror]⟩

/-- The text of an envelope without its fields, and no server. -/
def emptyObjectCodecs : Codecs where
  parseEnvelope := fun _ => .error "missing field payload"
  parsePayload := fun _ => .error "missing field vm"
  base64Encode := fun bytes =>
    String.ofList ((Base64.encode bytes).map fun byte => Char.ofNat byte.val)
  base64Decode := fun text =>
    .ok (Base64.decode (text.toList.map fun char => Fin.ofNat 256 char.toNat))
  sha512 := id

def offline : Outside where
  infoEnabled := true
  currentDir := .ok ()
  manifestDir := ⟨false, []⟩
  mockManifestDir := ⟨false, []⟩
  readFile := fun _ => .error "No such file or directory"
  display := fun _ => ""
  parseUrl := fun _ => .error "relative URL without a base"
  joinUrl := fun _ _ => .error "relative URL with a cannot-be-a-base base"
  urlPath := fun url => url.text
  get := fun _ => .error "error sending request"
  formatStatus := fun _ => ""
  vmOfManifest := fun _ => none
  defaultVmId := "nxcc/workerd"

theorem emptyObjectCodecs_base64 (bytes : Bytes) :
    emptyObjectCodecs.base64Decode (emptyObjectCodecs.base64Encode bytes) =
      .ok bytes := by
  have hbyte : ∀ byte : Byte,
      Fin.ofNat 256 (Char.ofNat byte.val).toNat = byte := by decide +kernel
  have hchars : (Base64.encode bytes).map
      (fun byte => Fin.ofNat 256 (Char.ofNat byte.val).toNat) =
      Base64.encode bytes := by
    rw [List.map_congr_left fun byte _ => hbyte byte, List.map_id']
  simp only [emptyObjectCodecs, String.toList_ofList, List.map_map,
    Function.comp_def, hchars, Base64.decode_encode]

/-- An empty object behind a media type is an error. -/
theorem bundleLoading_long :
    BundleLoading emptyObjectCodecs offline
      ⟨⟨"data:application/json;base64,e30=".toList, by decide, by decide⟩,
        none⟩ "mock://policy.example.com".toList :=
  (bundleLoading_iff emptyObjectCodecs offline emptyObjectCodecs_base64 _
    _).mpr fun _ => by decide

/-- The same object without one is a panic. -/
theorem bundleLoading_short :
    ¬ BundleLoading emptyObjectCodecs offline
      ⟨⟨"data:;base64,e30=".toList, by decide, by decide⟩, none⟩
      "mock://policy.example.com".toList := by
  intro hloading
  have hlength := (fetchWorkerBundle_ne_panic_iff ..).mp hloading.noPanic rfl
  exact absurd hlength (by decide)

end NxccBridge.BundleFetch
