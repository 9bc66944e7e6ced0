import NxccBridge.Chainlist.Curation
import NxccBridge.Core.LengthPrefix
import NxccBridge.Daemon.Gateways

/-!
# Publication of the chain list

`main` of `node/chainlist/src/bin/main.rs` and the lookups of
`node/chainlist/src/lib.rs`.  A run of the generator refreshes a directory with
a file for each chain and gathers the files in one document, which is compiled
into the daemon.  A run may break off between two chains; the files it has
written stay.
-/

namespace NxccBridge.Chainlist

open Function
open NxccBridge.Interface

variable {Content Variance : Type*}

/-- A chain in the document. -/
structure LibraryChain (Variance : Type*) where
  chainId : UInt64
  name : String
  rpcs : RpcEndpoints
  averageBlockTimeMs : Option ℕ
  blockTimeVarianceMs : Option Variance

def toLibraryChain (chain : GeneratedChain Variance) :
    LibraryChain Variance where
  chainId := chain.chainId
  name := chain.name
  rpcs := chain.rpcs
  averageBlockTimeMs := chain.averageBlockTimeMs
  blockTimeVarianceMs := chain.blockTimeVarianceMs

/-- `serde_json` on the two kinds of files.  A number with a fraction may change
a little when it is read back. -/
structure Documents (Content Variance : Type*) where
  encodeChain : GeneratedChain Variance → Content
  decodeChain : Content → Option (GeneratedChain Variance)
  encodeChains : List (LibraryChain Variance) → Content
  decodeChains : Content → Option (List (LibraryChain Variance))
  reread : Option Variance → Option Variance

namespace Documents

variable (documents : Documents Content Variance)

def rereadGenerated (chain : GeneratedChain Variance) :
    GeneratedChain Variance :=
  { chain with
    blockTimeVarianceMs := documents.reread chain.blockTimeVarianceMs }

def rereadLibrary (chain : LibraryChain Variance) : LibraryChain Variance :=
  { chain with
    blockTimeVarianceMs := documents.reread chain.blockTimeVarianceMs }

/-- A written file is read back. -/
def ReadsChains : Prop :=
  ∀ chain, documents.decodeChain (documents.encodeChain chain) =
    some (documents.rereadGenerated chain)

/-- The written document is read back. -/
def ReadsDocument : Prop :=
  ∀ chains, documents.decodeChains (documents.encodeChains chains) =
    some (chains.map documents.rereadLibrary)

end Documents

/-! ## The output directory -/

/-- The regular files, by name. -/
abbrev Directory (Content : Type*) := List (String × Content)

namespace Directory

def has (directory : Directory Content) (name : String) : Bool :=
  directory.any fun file => decide (file.1 = name)

/-- `fs::write`. -/
def write (directory : Directory Content) (name : String) (content : Content) :
    Directory Content :=
  if directory.has name then
    directory.map fun file => if file.1 = name then (name, content) else file
  else directory ++ [(name, content)]

theorem has_iff {directory : Directory Content} {name : String} :
    directory.has name = true ↔ ∃ content, (name, content) ∈ directory := by
  simp only [has, List.any_eq_true, decide_eq_true_eq]
  constructor
  · intro ⟨file, hmem, hname⟩
    exact ⟨file.2, hname ▸ hmem⟩
  · intro ⟨content, hmem⟩
    exact ⟨_, hmem, rfl⟩

theorem mem_write_iff {directory : Directory Content} {name : String}
    {content : Content} {file : String × Content} :
    file ∈ directory.write name content ↔
      file = (name, content) ∨ file ∈ directory ∧ file.1 ≠ name := by
  rw [write]
  by_cases hhas : directory.has name = true
  · rw [if_pos hhas]
    obtain ⟨old, hold⟩ := has_iff.mp hhas
    grind
  · rw [if_neg hhas]
    have hnone : ∀ file ∈ directory, file.1 ≠ name := by
      intro file hmem hname
      exact hhas (has_iff.mpr ⟨file.2, hname ▸ hmem⟩)
    grind

theorem nodup_write {directory : Directory Content} {name : String}
    {content : Content} (hnodup : (directory.map (·.1)).Nodup) :
    ((directory.write name content).map (·.1)).Nodup := by
  rw [write]
  by_cases hhas : directory.has name = true
  · rw [if_pos hhas, List.map_map]
    have hnames : (fun file : String × Content => file.1) ∘
        (fun file => if file.1 = name then (name, content) else file) =
        fun file => file.1 := by
      funext file
      by_cases hname : file.1 = name
      · simp [hname]
      · simp [hname]
    rwa [hnames]
  · rw [if_neg hhas, List.map_append, List.nodup_append]
    have hnone : ∀ other ∈ directory.map (·.1), other ≠ name := by
      intro other hmem hname
      obtain ⟨file, hfile, rfl⟩ := List.mem_map.mp hmem
      exact hhas (has_iff.mpr ⟨file.2, hname ▸ hfile⟩)
    exact ⟨hnodup, List.nodup_singleton _, by simpa using hnone⟩

end Directory

/-- `Path::extension`. -/
def extension (name : String) : Option String :=
  let backwards := name.toList.reverse
  match backwards.dropWhile (· != '.') with
  | _ :: _ :: _ =>
      some (String.ofList (backwards.takeWhile (· != '.')).reverse)
  | _ => none

def isJson (file : String × Content) : Bool :=
  decide (extension file.1 = some "json")

def chainFileName (chainId : UInt64) : String :=
  toString chainId.toNat ++ ".json"

theorem extension_chainFileName (chainId : UInt64) :
    extension (chainFileName chainId) = some "json" := by
  have hne : (Nat.toDigits 10 chainId.toNat).reverse ≠ [] := by
    simp
  cases hreverse : (Nat.toDigits 10 chainId.toNat).reverse with
  | nil => exact absurd hreverse hne
  | cons digit digits =>
      simp [extension, chainFileName, hreverse]

theorem chainFileName_injective : Injective chainFileName := by
  intro left right heq
  have htext := congrArg String.toList heq
  simp only [chainFileName, String.toList_append] at htext
  have hdigits := List.append_cancel_right htext
  have hnumber : left.toNat = right.toNat := by
    apply LengthPrefix.decimal_injective
    rw [LengthPrefix.decimal, LengthPrefix.decimal,
      String.toList_injective hdigits]
  exact UInt64.toNat_inj.mp hnumber

/-! ## A run of the generator -/

/-- What a run finds: its sources and arguments, the endpoints at the time each
chain is tested, the clock, and the order in which a directory is read.  A run
that an I/O error ends has got through some of the chains. -/
structure Scan (Content : Type*) where
  sourceChains : List SourceChain
  freshnessHours : ℕ
  startTime : ℕ
  network : UInt64 → Network
  connections : UInt64 → Connections
  clock : UInt64 → ℕ
  readDir : Directory Content → Directory Content
  readDir_perm : ∀ directory, (readDir directory).Perm directory
  stopsAfter : Option ℕ

def sortedChainIds (sourceChains : List SourceChain) : List UInt64 :=
  (sourceChains.map (·.chainId)).dedup.mergeSort fun a b => decide (a ≤ b)

theorem nodup_sortedChainIds (sourceChains : List SourceChain) :
    (sortedChainIds sourceChains).Nodup :=
  (List.mergeSort_perm _ _).nodup_iff.mpr (List.nodup_dedup _)

namespace Scan

variable (urls : UrlCrate)
variable (floats : List ℕ → ℕ → ℕ × Variance)
variable (documents : Documents Content Variance)
variable (scan : Scan Content)

def chainName (chainId : UInt64) : String :=
  match sourcesFor chainId scan.sourceChains with
  | chain :: _ => chain.name
  | [] => ""

/-- The data that a test of a chain leads to; a chain without a valid URL is
not tested. -/
def chainToWrite (chainId : UInt64) : Option (GeneratedChain Variance) :=
  let tasks := chainTasks urls chainId scan.sourceChains
  if tasks = [] then none
  else
    match processSingleChainResults floats (scan.connections chainId) chainId
        (scan.chainName chainId)
        (executeRpcTests urls (scan.network chainId) tasks)
        (scan.clock chainId) with
    | some chain => some chain
    | none => some {
        name := scan.chainName chainId
        chainId := chainId
        rpcs := .default
        averageBlockTimeMs := none
        blockTimeVarianceMs := none
        lastUpdated := scan.clock chainId }

/-- The chains of the files that can be read, in the order of the directory. -/
def existingChains (directory : Directory Content) :
    List (GeneratedChain Variance) :=
  ((scan.readDir directory).filter isJson).filterMap fun file =>
    documents.decodeChain file.2

def maxTime : ℕ := 2 ^ 64 - 1

def oldestLastUpdated (directory : Directory Content) : ℕ :=
  (scan.existingChains documents directory).foldl
    (fun oldest chain => min oldest chain.lastUpdated) maxTime

def freshnessSecs : ℕ := scan.freshnessHours * 3600 % 2 ^ 64

def areAllChainsFresh (directory : Directory Content) : Bool :=
  let oldest := scan.oldestLastUpdated documents directory
  if oldest = maxTime then false
  else decide (scan.startTime - oldest < scan.freshnessSecs)

def visit (fresh : Bool) (directory : Directory Content) (chainId : UInt64) :
    Directory Content :=
  if fresh && directory.has (chainFileName chainId) then directory
  else
    match scan.chainToWrite urls floats chainId with
    | none => directory
    | some chain =>
        directory.write (chainFileName chainId) (documents.encodeChain chain)

def visited : List UInt64 :=
  match scan.stopsAfter with
  | none => sortedChainIds scan.sourceChains
  | some count => (sortedChainIds scan.sourceChains).take count

def refresh (directory : Directory Content) : Directory Content :=
  let fresh := scan.areAllChainsFresh documents directory
  scan.visited.foldl (scan.visit urls floats documents fresh) directory

/-- `collect_chains_to_file`, what it gathers. -/
def collectChains (directory : Directory Content) :
    List (LibraryChain Variance) :=
  ((scan.existingChains documents directory).map toLibraryChain).mergeSort
    fun a b => decide (a.chainId ≤ b.chainId)

end Scan

/-- The output directory and the document that is compiled into the daemon. -/
structure Store (Content : Type*) where
  directory : Directory Content
  chainsJson : Content

section Store

variable (urls : UrlCrate)
variable (floats : List ℕ → ℕ → ℕ × Variance)
variable (documents : Documents Content Variance)

def Scan.run (store : Store Content) (scan : Scan Content) : Store Content :=
  let directory := scan.refresh urls floats documents store.directory
  match scan.stopsAfter with
  | some _ => { store with directory }
  | none => {
      directory
      chainsJson := documents.encodeChains
        (scan.collectChains documents directory) }

def generate (scans : List (Scan Content)) (store : Store Content) :
    Store Content :=
  scans.foldl (Scan.run urls floats documents) store

end Store

/-! ## The lookups of the library -/

inductive RpcType
  | https
  | wss
  deriving DecidableEq

def insertChain (byId : UInt64 → Option (LibraryChain Variance))
    (chain : LibraryChain Variance) : UInt64 → Option (LibraryChain Variance) :=
  update byId chain.chainId (some chain)

/-- The map of a list, where the last entry for an ID stays. -/
def chainsById (chains : List (LibraryChain Variance)) :
    UInt64 → Option (LibraryChain Variance) :=
  chains.foldl insertChain fun _ => none

/-- `CHAINS`; the library panics over a document that cannot be read. -/
def loadChains (documents : Documents Content Variance)
    (chainsJson : Content) :
    Option (UInt64 → Option (LibraryChain Variance)) :=
  (documents.decodeChains chainsJson).map chainsById

def RpcEndpoints.ofType (rpcs : RpcEndpoints) : RpcType → List String
  | .https => rpcs.https
  | .wss => rpcs.wss

def getRpcsForChain (chains : UInt64 → Option (LibraryChain Variance))
    (chainId : UInt64) (rpcType : RpcType) : Option (List String) :=
  match chains chainId with
  | none => none
  | some chain =>
      if (chain.rpcs.ofType rpcType).isEmpty then none
      else some (chain.rpcs.ofType rpcType)

theorem chainsById_eq_some_iff {chains : List (LibraryChain Variance)}
    (hnodup : (chains.map (·.chainId)).Nodup) (chainId : UInt64)
    (chain : LibraryChain Variance) :
    chainsById chains chainId = some chain ↔
      chain ∈ chains ∧ chain.chainId = chainId := by
  have hfold : ∀ (rest : List (LibraryChain Variance))
      (byId : UInt64 → Option (LibraryChain Variance)),
      (rest.map (·.chainId)).Nodup →
      (rest.foldl insertChain byId chainId = some chain ↔
        chain ∈ rest ∧ chain.chainId = chainId ∨
          chainId ∉ rest.map (·.chainId) ∧ byId chainId = some chain) := by
    intro rest
    induction rest with
    | nil => simp
    | cons first rest ih =>
        intro byId hdistinct
        rw [List.map_cons, List.nodup_cons] at hdistinct
        rw [List.foldl_cons, ih _ hdistinct.2]
        by_cases hid : chainId = first.chainId
        · subst hid
          have hrest : ¬(chain ∈ rest ∧ chain.chainId = first.chainId) := by
            intro ⟨hmem, heq⟩
            exact hdistinct.1 (heq ▸ List.mem_map_of_mem hmem)
          rw [insertChain, update_self]
          grind
        · rw [insertChain, update_of_ne hid]
          grind
  have hchains := hfold chains (fun _ => none) hnodup
  simpa [chainsById] using hchains

end NxccBridge.Chainlist
