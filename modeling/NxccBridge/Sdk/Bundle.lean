import NxccBridge.Daemon.BundleFetch

/-!
# Bundling a worker

`sdk/cli/src/utils/bundle.ts`.  The command line puts the code of a worker into
its manifest, as the data URL of an unsigned envelope.  The daemon reads the
code back, whatever files and servers it has.  The texts of a manifest are well
formed.
-/

namespace NxccBridge.CliBundle

open NxccBridge.BundleFetch (MediaType Outside dataUrl decodeDataUrl
  envelopeJson fetchWorkerBundle checkBundle checkBundle_cases
  fetchWorkerBundle_dataUrl emptyObjectCodecs emptyObjectCodecs_base64 offline)
open NxccBridge.Framing
open NxccBridge.Indexing
open NxccBridge.Worker

/-- A `WorkerBundlePointer` of `utils/types.ts`. -/
structure BundlePointer where
  source : Option (List Char)
  hash : Option Bytes
  vm : Option String

/-- A manifest; what the command line passes on unread is the rest. -/
structure WorkerManifest (Rest : Type) where
  vm : Option String
  bundle : Option BundlePointer
  rest : Rest

/-- The modules `url`, `path` and `fs`, and the JSON of manifests. -/
structure Host (Rest : Type) where
  fileURLToPath : List Char → Except String (List Char)
  isAbsolute : List Char → Bool
  resolve : List Char → List Char → List Char
  dirname : List Char → List Char
  readFile : List Char → Except String Bytes
  parseManifest : Bytes → Except String (WorkerManifest Rest)
  manifestJson : WorkerManifest Rest → Bytes

variable {Rest : Type} (codecs : Codecs) (host : Host Rest)

/-! ## The code -/

def defaultBundleVm : String := "nxcc/workerd"

def resolveBundleVm (manifest : WorkerManifest Rest) : String :=
  (manifest.vm.or (manifest.bundle.bind BundlePointer.vm)).getD
    defaultBundleVm

/-- `/^[a-zA-Z]+:\/\//`. -/
def hasProtocol (target : List Char) : Bool :=
  let scheme := target.takeWhile Char.isAlpha
  !scheme.isEmpty && "://".toList.isPrefixOf (target.drop scheme.length)

def resolveLocalPath (target baseDir : List Char) :
    Except String (List Char) :=
  if "file://".toList.isPrefixOf target then host.fileURLToPath target
  else if hasProtocol target then
    .error ("Unsupported protocol in path: " ++ String.ofList target)
  else if host.isAbsolute target then .ok target
  else .ok (host.resolve baseDir target)

def createUnsignedDsse (payload : Bytes) (payloadType : String) :
    DsseEnvelope where
  payload := codecs.base64Encode payload
  payloadType
  signatures := [{
    keyId := some "bench-key"
    sig := codecs.base64Encode (utf8 "benches") }]

/-- The payload without metadata. -/
def plainPayload (vm : String) (bundleContent : Bytes) :
    WorkerBundlePayload where
  vm
  executable := bundleContent
  metadata := ⟨[], List.nodup_nil⟩

def bundleEnvelope (vm : String) (bundleContent : Bytes) : DsseEnvelope :=
  createUnsignedDsse codecs
    (payloadJson codecs (plainPayload vm bundleContent) [])
    dsseWorkerBundlePayloadType

def bundleEnvelopeJson (vm : String) (bundleContent : Bytes) : Bytes :=
  envelopeJson (bundleEnvelope codecs vm bundleContent)

def applicationJson : MediaType where
  text := "application/json".toList
  noComma := by decide

def missingSource : String :=
  "Manifest must include a \"bundle.source\" value to bundle."

/-- The manifest with the code in the place of its source. -/
def withCode (manifest : WorkerManifest Rest) (bundle : BundlePointer)
    (bundleContent : Bytes) : WorkerManifest Rest :=
  let source := dataUrl codecs applicationJson
    (bundleEnvelopeJson codecs (resolveBundleVm manifest) bundleContent)
  { manifest with bundle := some { bundle with source := some source } }

/-- An empty source counts as none. -/
def embedBundleSource (manifest : WorkerManifest Rest)
    (manifestDir : List Char) : Except String (WorkerManifest Rest) :=
  match manifest.bundle with
  | none => .error missingSource
  | some bundle =>
      match bundle.source with
      | none | some [] => .error missingSource
      | some source =>
          if "data:".toList.isPrefixOf source then .ok manifest
          else do
            let bundlePath ← resolveLocalPath host source manifestDir
            let bundleContent ← host.readFile bundlePath
            .ok (withCode codecs manifest bundle bundleContent)

def bundleManifestFileToDataUrl (manifestPathOrUrl baseDir : List Char) :
    Except String (List Char × WorkerManifest Rest) := do
  let manifestPath ← resolveLocalPath host manifestPathOrUrl baseDir
  let manifestContent ← host.readFile manifestPath
  let manifest ← host.parseManifest manifestContent
  let manifest ← embedBundleSource codecs host manifest
    (host.dirname manifestPath)
  .ok (dataUrl codecs applicationJson (host.manifestJson manifest), manifest)

/-! ## What the manifest is given and gives -/

/-- A manifest on disk that names the code of its worker on disk. -/
structure OnDisk (manifestPathOrUrl baseDir : List Char)
    (manifest : WorkerManifest Rest) (bundle : BundlePointer)
    (bundleContent : Bytes) : Prop where
  bundled : manifest.bundle = some bundle
  files : ∃ manifestPath manifestContent source bundlePath,
    resolveLocalPath host manifestPathOrUrl baseDir = .ok manifestPath ∧
    host.readFile manifestPath = .ok manifestContent ∧
    host.parseManifest manifestContent = .ok manifest ∧
    bundle.source = some source ∧ source ≠ [] ∧
    "data:".toList.isPrefixOf source = false ∧
    resolveLocalPath host source (host.dirname manifestPath) =
      .ok bundlePath ∧
    host.readFile bundlePath = .ok bundleContent

/-- The libraries of the daemon read what was written for the code. -/
structure Reads (vm : String) (bundleContent : Bytes) : Prop where
  base64 : ∀ bytes, codecs.base64Decode (codecs.base64Encode bytes) =
    .ok bytes
  envelope : codecs.parseEnvelope (bundleEnvelopeJson codecs vm
    bundleContent) = .ok (bundleEnvelope codecs vm bundleContent)
  payload : codecs.parsePayload (payloadJson codecs
    (plainPayload vm bundleContent) []) = .ok (plainPayload vm bundleContent)

/-- The pointer that the daemon reads from a manifest. -/
def PointsTo (manifest : WorkerManifest Rest)
    (pointer : BundleFetch.WorkerBundlePointer) : Prop :=
  ∃ bundle, manifest.bundle = some bundle ∧
    bundle.source = some pointer.source.text ∧ bundle.hash = pointer.hash

/-- From this manifest every daemon fetches the code for the machine, and an error
if the manifest has the hash of something else. -/
structure Carries (manifest : WorkerManifest Rest) (vm : String)
    (bundleContent : Bytes) : Prop where
  embedded : ∀ (other : Host Rest) (manifestDir : List Char),
    embedBundleSource codecs other manifest manifestDir = .ok manifest
  fetched : ∀ (outside : Outside) (pointer : BundleFetch.WorkerBundlePointer)
    (manifestUrl : List Char), PointsTo manifest pointer →
      ((∃ bundle, fetchWorkerBundle codecs outside pointer manifestUrl =
          .ok (.ok bundle) ∧
        bundle.payload codecs = .ok (plainPayload vm bundleContent)) ↔
        ∀ expected, pointer.hash = some expected →
          expected = codecs.sha512 (bundleEnvelopeJson codecs vm
            bundleContent))
  refused : ∀ (outside : Outside) (pointer : BundleFetch.WorkerBundlePointer)
    (manifestUrl : List Char), PointsTo manifest pointer →
      ∀ expected, pointer.hash = some expected →
        expected ≠ codecs.sha512 (bundleEnvelopeJson codecs vm
          bundleContent) →
        ∃ e, fetchWorkerBundle codecs outside pointer manifestUrl =
          .ok (.error e)

variable {codecs host} {manifest : WorkerManifest Rest}
variable {bundle : BundlePointer} {bundleContent : Bytes}

/-! ## The command line -/

theorem isPrefixOf_dataUrl (mediaType : MediaType) (bytes : Bytes) :
    "data:".toList.isPrefixOf (dataUrl codecs mediaType bytes) = true := by
  rw [dataUrl, List.isPrefixOf_iff_prefix]
  exact List.prefix_append _ _

theorem length_dataUrl (bytes : Bytes) :
    20 ≤ (dataUrl codecs applicationJson bytes).length := by
  have hmedia : applicationJson.text.length = 16 := by decide
  have hencoding : ";base64".toList.length = 7 := by decide
  rw [dataUrl, List.length_append, List.length_append, List.length_append,
    hmedia, hencoding]
  omega

/-- A data URL is left as it is. -/
theorem embedBundleSource_withCode (other : Host Rest)
    (manifestDir : List Char) :
    embedBundleSource codecs other (withCode codecs manifest bundle
      bundleContent) manifestDir =
        .ok (withCode codecs manifest bundle bundleContent) := by
  have hdata : "data:".toList.isPrefixOf (dataUrl codecs applicationJson
      (bundleEnvelopeJson codecs (resolveBundleVm manifest) bundleContent)) =
        true := isPrefixOf_dataUrl _ _
  cases hsource : dataUrl codecs applicationJson (bundleEnvelopeJson codecs
      (resolveBundleVm manifest) bundleContent) with
  | nil => simp [hsource] at hdata
  | cons first rest =>
      rw [hsource] at hdata
      simp only [embedBundleSource, withCode, hsource, hdata, if_true]

theorem OnDisk.written {manifestPathOrUrl baseDir : List Char}
    (hdisk : OnDisk host manifestPathOrUrl baseDir manifest bundle
      bundleContent) :
    bundleManifestFileToDataUrl codecs host manifestPathOrUrl baseDir =
      .ok (dataUrl codecs applicationJson
          (host.manifestJson (withCode codecs manifest bundle bundleContent)),
        withCode codecs manifest bundle bundleContent) := by
  obtain ⟨manifestPath, manifestContent, source, bundlePath, hpath, hread,
    hparse, hsource, hnonempty, hlocal, hresolve, hcontent⟩ := hdisk.files
  have hembed : embedBundleSource codecs host manifest
      (host.dirname manifestPath) =
        .ok (withCode codecs manifest bundle bundleContent) := by
    cases source with
    | nil => exact absurd rfl hnonempty
    | cons first rest =>
        simp only [embedBundleSource, hdisk.bundled, hsource, hlocal,
          hresolve, hcontent, bind, Except.bind, Bool.false_eq_true, if_false]
  simp only [bundleManifestFileToDataUrl, hpath, hread, hparse, hembed, bind,
    Except.bind]

/-! ## The daemon -/

theorem Reads.payload_eq {vm : String}
    (hreads : Reads codecs vm bundleContent) :
    (WorkerBundle.mk (bundleEnvelopeJson codecs vm bundleContent)).payload
      codecs = .ok (plainPayload vm bundleContent) := by
  rw [WorkerBundle.payload, WorkerBundle.dsseEnvelope, hreads.envelope]
  simp [bundleEnvelope, createUnsignedDsse, Except.mapError, hreads.base64,
    hreads.payload]

/-- The checks of the daemon on what the command line wrote. -/
theorem carries_withCode
    (hreads : Reads codecs (resolveBundleVm manifest) bundleContent) :
    Carries codecs (withCode codecs manifest bundle bundleContent)
      (resolveBundleVm manifest) bundleContent := by
  have hchecked : ∀ (outside : Outside)
      (pointer : BundleFetch.WorkerBundlePointer) (manifestUrl : List Char),
      PointsTo (withCode codecs manifest bundle bundleContent) pointer →
        fetchWorkerBundle codecs outside pointer manifestUrl =
          .ok (checkBundle codecs pointer (bundleEnvelopeJson codecs
            (resolveBundleVm manifest) bundleContent)) := by
    intro outside pointer manifestUrl hpoints
    obtain ⟨named, hnamed, hsource, -⟩ := hpoints
    obtain rfl := Option.some.inj hnamed
    have htext := (Option.some.inj hsource).symm
    apply fetchWorkerBundle_dataUrl codecs outside hreads.base64 _ htext
    intro _
    rw [htext]
    exact length_dataUrl _
  have henvelope := (BundleFetch.payload_isOk_iff codecs _).mp
    ⟨_, hreads.payload_eq⟩
  constructor
  · exact embedBundleSource_withCode
  · intro outside pointer manifestUrl hpoints
    rw [hchecked outside pointer manifestUrl hpoints]
    cases checkBundle_cases codecs pointer (bundleEnvelopeJson codecs
        (resolveBundleVm manifest) bundleContent) with
    | inl haccepted =>
        obtain ⟨haccept, hok⟩ := haccepted
        rw [hok]
        exact iff_of_true ⟨_, rfl, hreads.payload_eq⟩ haccept.hash
    | inr hrefused =>
        obtain ⟨hreject, e, herror⟩ := hrefused
        rw [herror]
        apply iff_of_false
        · intro ⟨fetched, hfetched, _⟩
          cases hfetched
        · intro hhash
          exact hreject ⟨henvelope, hhash⟩
  · intro outside pointer manifestUrl hpoints expected hhash hother
    rw [hchecked outside pointer manifestUrl hpoints]
    cases checkBundle_cases codecs pointer (bundleEnvelopeJson codecs
        (resolveBundleVm manifest) bundleContent) with
    | inl haccepted => exact absurd (haccepted.1.hash expected hhash) hother
    | inr hrefused =>
        obtain ⟨-, e, herror⟩ := hrefused
        exact ⟨e, by rw [herror]⟩

theorem decodeDataUrl_ok
    (hbase64 : ∀ bytes,
      codecs.base64Decode (codecs.base64Encode bytes) = .ok bytes)
    (mediaType : MediaType) (bytes : Bytes) :
    decodeDataUrl codecs (dataUrl codecs mediaType bytes) = .ok bytes := by
  have hdecoded := BundleFetch.decodeDataUrl_dataUrl codecs mediaType bytes
  rw [hbase64] at hdecoded
  cases hresult : decodeDataUrl codecs (dataUrl codecs mediaType bytes) with
  | error e => simp [hresult, Except.toOption] at hdecoded
  | ok decoded => simpa [hresult, Except.toOption] using hdecoded

/-- The data URL of a manifest on disk holds all that a daemon needs: from it
comes the manifest as it was but for its source, and from that the code, for the
machine that the manifest on disk asks for. -/
theorem bundle_round_trip {manifestPathOrUrl baseDir : List Char}
    (hdisk : OnDisk host manifestPathOrUrl baseDir manifest bundle
      bundleContent)
    (hreads : Reads codecs (resolveBundleVm manifest) bundleContent) :
    ∃ url embedded,
      bundleManifestFileToDataUrl codecs host manifestPathOrUrl baseDir =
        .ok (url, embedded) ∧
      decodeDataUrl codecs url = .ok (host.manifestJson embedded) ∧
      (∃ source, embedded = { manifest with
        bundle := some { bundle with source := some source } }) ∧
      Carries codecs embedded (resolveBundleVm manifest) bundleContent :=
  ⟨_, _, hdisk.written, decodeDataUrl_ok hreads.base64 _ _, ⟨_, rfl⟩,
    carries_withCode hreads⟩

/-! ## A policy on disk -/

def policyManifest : WorkerManifest Unit where
  vm := none
  bundle := some ⟨some "policy.lua".toList, none, some "nxcc/zenroom"⟩
  rest := ()

/-- A directory with the manifest and the code of the policy. -/
def policyHost : Host Unit where
  fileURLToPath := fun _ => .error "The URL must be of scheme file"
  isAbsolute := fun path => path.head? = some '/'
  resolve := fun baseDir target => baseDir ++ '/' :: target
  dirname := fun _ => "/policy".toList
  readFile := fun path =>
    if path = "/policy/manifest.json".toList then .ok [123, 125]
    else if path = "/policy/policy.lua".toList then .ok [1, 2, 3]
    else .error "ENOENT"
  parseManifest := fun _ => .ok policyManifest
  manifestJson := fun _ => [123, 125]

/-- Libraries whose parsers read one bundle. -/
def readingCodecs (vm : String) (bundleContent : Bytes) : Codecs :=
  { emptyObjectCodecs with
    parseEnvelope := fun bytes =>
      if bytes = bundleEnvelopeJson emptyObjectCodecs vm bundleContent then
        .ok (bundleEnvelope emptyObjectCodecs vm bundleContent)
      else .error "missing field payload"
    parsePayload := fun bytes =>
      if bytes = payloadJson emptyObjectCodecs
        (plainPayload vm bundleContent) [] then
        .ok (plainPayload vm bundleContent)
      else .error "missing field vm" }

theorem readingCodecs_reads (vm : String) (bundleContent : Bytes) :
    Reads (readingCodecs vm bundleContent) vm bundleContent := by
  have hpayload : payloadJson (readingCodecs vm bundleContent) =
      payloadJson emptyObjectCodecs := by
    funext payload metadata
    rfl
  have henvelope : bundleEnvelope (readingCodecs vm bundleContent) =
      bundleEnvelope emptyObjectCodecs := by
    funext vm bundleContent
    rfl
  constructor
  · exact emptyObjectCodecs_base64
  · rw [bundleEnvelopeJson, henvelope]
    simp only [readingCodecs, bundleEnvelopeJson, if_true]
  · rw [hpayload]
    simp only [readingCodecs, if_true]

theorem policyHost_onDisk :
    OnDisk policyHost "manifest.json".toList "/policy".toList policyManifest
      ⟨some "policy.lua".toList, none, some "nxcc/zenroom"⟩ [1, 2, 3] where
  bundled := rfl
  files := ⟨"/policy/manifest.json".toList, [123, 125],
    "policy.lua".toList, "/policy/policy.lua".toList, by decide, by decide,
    rfl, rfl, by decide, by decide, by decide, by decide⟩

theorem symbol_ascii (number : ℕ) : (Base64.symbol number).val < 128 := by
  rw [Base64.symbol]
  split_ifs
  · rw [Fin.val_ofNat]
    omega
  · rw [Fin.val_ofNat]
    omega
  · rw [Fin.val_ofNat]
    omega
  · decide
  · decide

theorem encode_ascii (bytes : Bytes) :
    ∀ byte ∈ Base64.encode bytes, byte.val < 128 := by
  have hpad : Base64.pad.val < 128 := by decide
  induction bytes using Base64.encode.induct with
  | case1 => simp [Base64.encode]
  | case2 first => simp [Base64.encode, symbol_ascii, hpad]
  | case3 first second => simp [Base64.encode, symbol_ascii, hpad]
  | case4 first second third rest ih =>
      simp only [Base64.encode, List.forall_mem_cons]
      exact ⟨symbol_ascii _, symbol_ascii _, symbol_ascii _, symbol_ascii _, ih⟩

theorem dataUrl_ascii (bytes : Bytes) :
    (dataUrl emptyObjectCodecs applicationJson bytes).all fun char =>
      decide (char.toNat < 128) := by
  have hbyte : ∀ byte : Byte, byte.val < 128 →
      (Char.ofNat byte.val).toNat < 128 := by decide +kernel
  have hscheme : "data:".toList.all fun char =>
      decide (char.toNat < 128) := by decide
  have hmedia : (applicationJson.text ++ ";base64".toList).all fun char =>
      decide (char.toNat < 128) := by decide
  rw [dataUrl, List.all_append, List.all_append, hscheme, hmedia,
    List.all_cons, emptyObjectCodecs, String.toList_ofList, List.all_map]
  apply List.all_eq_true.mpr
  intro byte hmem
  exact decide_eq_true (hbyte byte (encode_ascii bytes byte hmem))

/-- What the daemon reads from the bundled manifest. -/
def policyPointer : BundleFetch.WorkerBundlePointer where
  source := {
    text := dataUrl emptyObjectCodecs applicationJson
      (bundleEnvelopeJson emptyObjectCodecs "nxcc/zenroom" [1, 2, 3])
    ascii := dataUrl_ascii _
    colon := List.contains_iff_mem.mpr
      (List.mem_append_left _ (by decide)) }
  hash := none

theorem bundle_round_trip_policy :
    ∃ fetched,
      fetchWorkerBundle (readingCodecs "nxcc/zenroom" [1, 2, 3]) offline
        policyPointer "mock://policy".toList = .ok (.ok fetched) ∧
      fetched.payload (readingCodecs "nxcc/zenroom" [1, 2, 3]) =
        .ok (plainPayload "nxcc/zenroom" [1, 2, 3]) := by
  obtain ⟨url, embedded, hrun, -, -, hcarries⟩ :=
    bundle_round_trip policyHost_onDisk (readingCodecs_reads _ _)
  rw [policyHost_onDisk.written] at hrun
  obtain rfl := (Prod.mk.inj (Except.ok.inj hrun)).2
  apply (hcarries.fetched offline policyPointer _ ⟨_, rfl, rfl, rfl⟩).mpr
  intro expected hexpected
  cases hexpected

end NxccBridge.CliBundle
