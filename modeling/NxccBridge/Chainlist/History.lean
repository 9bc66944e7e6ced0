import NxccBridge.Chainlist.Publication

/-!
# The history of the chain list

What the runs of the generator amount to, chain by chain: a book of the data
that was last written for each chain, and the page that is on show since the
last run that came to its end.
-/

namespace NxccBridge.Chainlist

open Function
open NxccBridge.Interface

variable {Content Variance : Type*}

/-- What was last written for each chain. -/
abbrev Page (Variance : Type*) := UInt64 → Option (GeneratedChain Variance)

/-- The page as it is, and as it was at the end of the last complete run. -/
structure Book (Variance : Type*) where
  page : Page Variance
  shown : Option (Page Variance)

def Book.empty : Book Variance where
  page := fun _ => none
  shown := none

/-- Something has been written, all of it within the last `age` seconds. -/
structure AllFresh (page : Page Variance) (now age : ℕ) : Prop where
  written : ∃ chainId chain, page chainId = some chain ∧
    chain.lastUpdated < Scan.maxTime
  recent : ∀ chainId chain, page chainId = some chain →
    now - chain.lastUpdated < age

section Record

variable (urls : UrlCrate)
variable (floats : List ℕ → ℕ → ℕ × Variance)

open Classical in
/-- A run writes the chains it gets to; while everything is fresh, only those
that are not in the book. -/
noncomputable def Scan.turn (scan : Scan Content) (page : Page Variance) :
    Page Variance := fun chainId =>
  if chainId ∈ scan.visited ∧
      ¬(AllFresh page scan.startTime scan.freshnessSecs ∧
        (page chainId).isSome) then
    (scan.chainToWrite urls floats chainId).or (page chainId)
  else page chainId

noncomputable def Book.record (book : Book Variance) (scan : Scan Content) :
    Book Variance :=
  let page := scan.turn urls floats book.page
  match scan.stopsAfter with
  | some _ => { book with page }
  | none => { page, shown := some page }

noncomputable def Book.after (scans : List (Scan Content)) : Book Variance :=
  scans.foldl (Book.record urls floats) .empty

end Record

/-! ## The directory holds the page -/

/-- The files of a directory are those of a page. -/
structure Holds (documents : Documents Content Variance)
    (directory : Directory Content) (page : Page Variance) : Prop where
  distinct : (directory.map (·.1)).Nodup
  mem_iff : ∀ file, file ∈ directory ↔
    ∃ chainId chain, page chainId = some chain ∧
      file = (chainFileName chainId, documents.encodeChain chain)
  own_id : ∀ chainId chain, page chainId = some chain →
    chain.chainId = chainId

namespace Holds

variable {documents : Documents Content Variance}
variable {directory : Directory Content} {page : Page Variance}

theorem nil : Holds documents [] (fun _ => none) := by
  constructor
  · exact List.nodup_nil
  · simp
  · intro chainId chain hpage
    cases hpage

theorem has_iff (hholds : Holds documents directory page) (chainId : UInt64) :
    directory.has (chainFileName chainId) = (page chainId).isSome := by
  rw [Bool.eq_iff_iff, Directory.has_iff, Option.isSome_iff_exists]
  constructor
  · intro ⟨content, hmem⟩
    obtain ⟨other, chain, hpage, hfile⟩ := (hholds.mem_iff _).mp hmem
    have hid := chainFileName_injective (congrArg Prod.fst hfile)
    exact ⟨chain, hid ▸ hpage⟩
  · intro ⟨chain, hpage⟩
    exact ⟨_, (hholds.mem_iff _).mpr ⟨chainId, chain, hpage, rfl⟩⟩

theorem write (hholds : Holds documents directory page) {chainId : UInt64}
    {chain : GeneratedChain Variance} (hid : chain.chainId = chainId) :
    Holds documents
      (directory.write (chainFileName chainId) (documents.encodeChain chain))
      (update page chainId (some chain)) := by
  constructor
  · exact Directory.nodup_write hholds.distinct
  · intro file
    rw [Directory.mem_write_iff, hholds.mem_iff]
    constructor
    · intro hfile
      cases hfile with
      | inl hnew => exact ⟨chainId, chain, update_self .., hnew⟩
      | inr hold =>
          obtain ⟨⟨other, old, hpage, hfile⟩, hname⟩ := hold
          have hother : other ≠ chainId := by
            intro heq
            exact hname (by rw [hfile, heq])
          exact ⟨other, old, by rw [update_of_ne hother, hpage], hfile⟩
    · intro ⟨other, old, hpage, hfile⟩
      by_cases hother : other = chainId
      · subst hother
        rw [update_self, Option.some.injEq] at hpage
        exact Or.inl (hpage ▸ hfile)
      · rw [update_of_ne hother] at hpage
        refine Or.inr ⟨⟨other, old, hpage, hfile⟩, ?_⟩
        rw [hfile]
        exact fun hname => hother (chainFileName_injective hname)
  · intro other old hpage
    by_cases hother : other = chainId
    · subst hother
      rw [update_self, Option.some.injEq] at hpage
      exact hpage ▸ hid
    · rw [update_of_ne hother] at hpage
      exact hholds.own_id other old hpage

/-- The chains that are read from the directory. -/
theorem mem_existingChains_iff (hreads : documents.ReadsChains)
    (hholds : Holds documents directory page) (scan : Scan Content)
    (chain : GeneratedChain Variance) :
    chain ∈ scan.existingChains documents directory ↔
      ∃ chainId written, page chainId = some written ∧
        chain = documents.rereadGenerated written := by
  simp only [Scan.existingChains, List.mem_filterMap, List.mem_filter,
    (scan.readDir_perm directory).mem_iff, hholds.mem_iff, isJson,
    decide_eq_true_eq]
  constructor
  · intro ⟨file, ⟨⟨chainId, written, hpage, hfile⟩, _⟩, hdecode⟩
    rw [hfile, hreads written, Option.some.injEq] at hdecode
    exact ⟨chainId, written, hpage, hdecode.symm⟩
  · intro ⟨chainId, written, hpage, hchain⟩
    refine ⟨_, ⟨⟨chainId, written, hpage, rfl⟩, ?_⟩, ?_⟩
    · exact extension_chainFileName chainId
    · rw [hreads written, hchain]

theorem nodup_existingChains (hreads : documents.ReadsChains)
    (hholds : Holds documents directory page) (scan : Scan Content) :
    ((scan.existingChains documents directory).map (·.chainId)).Nodup := by
  have hperm := scan.readDir_perm directory
  have hnames : (scan.readDir directory).Pairwise fun a b => a.1 ≠ b.1 :=
    (hperm.pairwise_iff Ne.symm).mpr (List.pairwise_map.mp hholds.distinct)
  have hfile : ∀ file ∈ (scan.readDir directory).filter isJson, ∀ chain,
      documents.decodeChain file.2 = some chain →
      file.1 = chainFileName chain.chainId := by
    intro file hmem chain hdecode
    have hdirectory := hperm.mem_iff.mp (List.mem_filter.mp hmem).1
    obtain ⟨chainId, written, hpage, rfl⟩ := (hholds.mem_iff file).mp hdirectory
    rw [hreads written, Option.some.injEq] at hdecode
    rw [← hdecode, ← hholds.own_id chainId written hpage]
    rfl
  rw [List.Nodup, List.pairwise_map, Scan.existingChains,
    List.pairwise_filterMap]
  apply (hnames.filter isJson).imp_of_mem
  intro a b ha hb hne chainA hchainA chainB hchainB heq
  apply hne
  rw [hfile a ha chainA hchainA, hfile b hb chainB hchainB, heq]

/-! ## Freshness -/

variable (documents) in
theorem min?_stamps (scan : Scan Content) (directory : Directory Content) :
    (Scan.maxTime :: (scan.existingChains documents directory).map
      (·.lastUpdated)).min? =
        some (scan.oldestLastUpdated documents directory) := by
  rw [List.min?_cons', List.foldl_map]
  rfl

theorem areAllChainsFresh_iff (hreads : documents.ReadsChains)
    (hholds : Holds documents directory page) (scan : Scan Content) :
    scan.areAllChainsFresh documents directory = true ↔
      AllFresh page scan.startTime scan.freshnessSecs := by
  have hmin := List.min?_eq_some_iff.mp
    (min?_stamps documents scan directory)
  have hstamp : ∀ stamp,
      stamp ∈ (scan.existingChains documents directory).map (·.lastUpdated) ↔
        ∃ chainId chain, page chainId = some chain ∧
          chain.lastUpdated = stamp := by
    intro stamp
    rw [List.mem_map]
    constructor
    · intro ⟨read, hmem, hlast⟩
      obtain ⟨chainId, chain, hpage, rfl⟩ :=
        (hholds.mem_existingChains_iff hreads scan read).mp hmem
      exact ⟨chainId, chain, hpage, hlast⟩
    · intro ⟨chainId, chain, hpage, hlast⟩
      exact ⟨_, (hholds.mem_existingChains_iff hreads scan _).mpr
        ⟨chainId, chain, hpage, rfl⟩, hlast⟩
  have hle : ∀ chainId chain, page chainId = some chain →
      scan.oldestLastUpdated documents directory ≤ chain.lastUpdated := by
    intro chainId chain hpage
    apply hmin.2
    exact List.mem_cons_of_mem _ ((hstamp _).mpr ⟨chainId, chain, hpage, rfl⟩)
  have hmax := hmin.2 Scan.maxTime List.mem_cons_self
  simp only [Scan.areAllChainsFresh]
  by_cases hoverflow :
      scan.oldestLastUpdated documents directory = Scan.maxTime
  · rw [if_pos hoverflow]
    constructor
    · intro hfalse
      cases hfalse
    · intro hfresh
      obtain ⟨chainId, chain, hpage, hlt⟩ := hfresh.written
      have hoverflowing := hle chainId chain hpage
      omega
  · rw [if_neg hoverflow, decide_eq_true_eq]
    have hmem := List.mem_cons.mp hmin.1
    obtain ⟨oldestId, oldest, holdest, hstampEq⟩ :=
      (hstamp _).mp (hmem.resolve_left hoverflow)
    constructor
    · intro hage
      constructor
      · exact ⟨oldestId, oldest, holdest, by omega⟩
      · intro chainId chain hpage
        have hafter := hle chainId chain hpage
        omega
    · intro hfresh
      have hage := hfresh.recent oldestId oldest holdest
      omega

/-! ## Runs -/

section Runs

variable {urls : UrlCrate}
variable {floats : List ℕ → ℕ → ℕ × Variance}

theorem chainId_chainToWrite {scan : Scan Content} {chainId : UInt64}
    {chain : GeneratedChain Variance}
    (hchain : scan.chainToWrite urls floats chainId = some chain) :
    chain.chainId = chainId := by
  simp only [Scan.chainToWrite] at hchain
  by_cases htasks : chainTasks urls chainId scan.sourceChains = []
  · rw [if_pos htasks] at hchain
    cases hchain
  · rw [if_neg htasks] at hchain
    split at hchain
    · rename_i tested htested
      rw [Option.some.injEq] at hchain
      exact hchain ▸ chainId_processSingleChainResults htested
    · rw [Option.some.injEq] at hchain
      rw [← hchain]

variable (urls floats) in
/-- What the visit of one chain does to the page. -/
def visitPage (scan : Scan Content) (fresh : Bool) (page : Page Variance)
    (chainId : UInt64) : Page Variance :=
  if fresh && (page chainId).isSome then page
  else update page chainId
    ((scan.chainToWrite urls floats chainId).or (page chainId))

theorem visit (hholds : Holds documents directory page) (scan : Scan Content)
    (fresh : Bool) (chainId : UInt64) :
    Holds documents
      (scan.visit urls floats documents fresh directory chainId)
      (visitPage urls floats scan fresh page chainId) := by
  rw [Scan.visit, visitPage, hholds.has_iff]
  by_cases hskip : (fresh && (page chainId).isSome) = true
  · rw [if_pos hskip, if_pos hskip]
    exact hholds
  · rw [if_neg hskip, if_neg hskip]
    cases hchain : scan.chainToWrite urls floats chainId with
    | none =>
        rw [Option.none_or, update_eq_self]
        exact hholds
    | some chain =>
        rw [Option.some_or]
        exact hholds.write (chainId_chainToWrite hchain)

theorem foldl_visit (scan : Scan Content) (fresh : Bool)
    {chainIds : List UInt64} (hnodup : chainIds.Nodup)
    (hholds : Holds documents directory page) :
    Holds documents
      (chainIds.foldl (scan.visit urls floats documents fresh) directory)
      (fun chainId =>
        if chainId ∈ chainIds ∧ ¬(fresh = true ∧ (page chainId).isSome = true)
        then (scan.chainToWrite urls floats chainId).or (page chainId)
        else page chainId) := by
  induction chainIds generalizing directory page with
  | nil => simpa using hholds
  | cons first rest ih =>
      rw [List.nodup_cons] at hnodup
      rw [List.foldl_cons]
      convert ih hnodup.2 (hholds.visit scan fresh first) using 1
      funext chainId
      by_cases hid : chainId = first
      · subst hid
        simp only [hnodup.1, List.mem_cons_self, visitPage, false_and, true_and,
          if_false]
        cases fresh with
        | false => simp
        | true =>
            cases hpage : page chainId with
            | none => simp
            | some chain => simp [hpage]
      · have hsame : visitPage urls floats scan fresh page first chainId =
            page chainId := by
          rw [visitPage]
          split
          · rfl
          · rw [update_of_ne hid]
        simp only [hsame, List.mem_cons, hid, false_or]

variable (urls floats) in
theorem refresh (hreads : documents.ReadsChains)
    (hholds : Holds documents directory page) (scan : Scan Content) :
    Holds documents (scan.refresh urls floats documents directory)
      (scan.turn urls floats page) := by
  have hnodup : scan.visited.Nodup := by
    rw [Scan.visited]
    split
    · exact nodup_sortedChainIds _
    · exact (nodup_sortedChainIds _).sublist (List.take_sublist _ _)
  have hturn : scan.turn urls floats page = fun chainId =>
      if chainId ∈ scan.visited ∧
        ¬(scan.areAllChainsFresh documents directory = true ∧
          (page chainId).isSome = true)
      then (scan.chainToWrite urls floats chainId).or (page chainId)
      else page chainId := by
    funext chainId
    simp only [Scan.turn, ← hholds.areAllChainsFresh_iff hreads scan]
  rw [hturn]
  exact hholds.foldl_visit scan _ hnodup

end Runs

end Holds

/-! ## The document -/

section Document

variable {documents : Documents Content Variance}
variable {directory : Directory Content} {page : Page Variance}

/-- A chain of the page as the library hands it out. -/
def published (documents : Documents Content Variance)
    (chain : GeneratedChain Variance) : LibraryChain Variance :=
  documents.rereadLibrary (toLibraryChain (documents.rereadGenerated chain))

theorem loadChains_collectChains (hreads : documents.ReadsChains)
    (hdocument : documents.ReadsDocument)
    (hholds : Holds documents directory page) (scan : Scan Content) :
    loadChains documents
        (documents.encodeChains (scan.collectChains documents directory)) =
      some fun chainId => (page chainId).map (published documents) := by
  rw [loadChains, hdocument, Option.map_some, Option.some.injEq]
  have hperm : ((scan.collectChains documents directory).map
      documents.rereadLibrary).Perm
      ((scan.existingChains documents directory).map fun chain =>
        documents.rereadLibrary (toLibraryChain chain)) := by
    have hsort : (scan.collectChains documents directory).Perm
        ((scan.existingChains documents directory).map toLibraryChain) :=
      List.mergeSort_perm _ _
    have hmap := hsort.map documents.rereadLibrary
    rw [List.map_map] at hmap
    exact hmap
  have hnodup : (((scan.collectChains documents directory).map
      documents.rereadLibrary).map (·.chainId)).Nodup := by
    apply ((hperm.map (·.chainId)).nodup_iff).mpr
    rw [List.map_map]
    exact hholds.nodup_existingChains hreads scan
  funext chainId
  apply Option.ext
  intro chain
  rw [chainsById_eq_some_iff hnodup, hperm.mem_iff, List.mem_map,
    Option.map_eq_some_iff]
  constructor
  · intro ⟨⟨read, hmem, hread⟩, hid⟩
    obtain ⟨other, written, hpage, rfl⟩ :=
      (hholds.mem_existingChains_iff hreads scan read).mp hmem
    have hother : other = chainId := by
      rw [← hid, ← hread, ← hholds.own_id other written hpage]
      rfl
    exact ⟨written, hother ▸ hpage, hread⟩
  · intro ⟨written, hpage, hchain⟩
    have hmem := (hholds.mem_existingChains_iff hreads scan _).mpr
      ⟨chainId, written, hpage, rfl⟩
    refine ⟨⟨_, hmem, hchain⟩, ?_⟩
    rw [← hchain, ← hholds.own_id chainId written hpage]
    rfl

end Document

/-! ## Histories -/

section Histories

variable (documents : Documents Content Variance)

/-- The store is what the book says; before the first complete run the document
is the one that came with the source. -/
structure Keeps (initial : Content) (store : Store Content)
    (book : Book Variance) : Prop where
  holds : Holds documents store.directory book.page
  shows : match book.shown with
    | none => store.chainsJson = initial
    | some page => loadChains documents store.chainsJson =
        some fun chainId => (page chainId).map (published documents)

variable (urls : UrlCrate)
variable (floats : List ℕ → ℕ → ℕ × Variance)
variable {documents} {initial : Content} {store : Store Content}
variable {book : Book Variance}

theorem Keeps.run (hreads : documents.ReadsChains)
    (hdocument : documents.ReadsDocument)
    (hkeeps : Keeps documents initial store book) (scan : Scan Content) :
    Keeps documents initial (Scan.run urls floats documents store scan)
      (book.record urls floats scan) := by
  have hholds := hkeeps.holds.refresh urls floats hreads scan
  rw [Scan.run, Book.record]
  cases hstops : scan.stopsAfter with
  | some count => exact ⟨hholds, hkeeps.shows⟩
  | none =>
      exact ⟨hholds, loadChains_collectChains hreads hdocument hholds scan⟩

/-- After any runs, broken off or not, the library hands out what the last
complete run found written for each chain. -/
theorem generate_keeps (hreads : documents.ReadsChains)
    (hdocument : documents.ReadsDocument) (scans : List (Scan Content))
    (initial : Content) :
    Keeps documents initial
      (generate urls floats documents scans ⟨[], initial⟩)
      (Book.after urls floats scans) := by
  have hfold : ∀ (scans : List (Scan Content)) (store : Store Content)
      (book : Book Variance), Keeps documents initial store book →
      Keeps documents initial
        (scans.foldl (Scan.run urls floats documents) store)
        (scans.foldl (Book.record urls floats) book) := by
    intro scans
    induction scans with
    | nil =>
        intro store book hkeeps
        exact hkeeps
    | cons scan scans ih =>
        intro store book hkeeps
        exact ih _ _ (hkeeps.run urls floats hreads hdocument scan)
  exact hfold scans _ _ ⟨Holds.nil, rfl⟩

theorem turn_eq_some {scan : Scan Content} {page : Page Variance}
    {chainId : UInt64} {chain : GeneratedChain Variance}
    (hturn : scan.turn urls floats page chainId = some chain) :
    scan.chainToWrite urls floats chainId = some chain ∨
      page chainId = some chain := by
  rw [Scan.turn] at hturn
  split at hturn
  · rw [Option.or_eq_some_iff] at hturn
    exact hturn.imp id And.right
  · exact Or.inr hturn

/-- Each chain of a page was written by one of the runs. -/
def WrittenBy (scans : List (Scan Content)) (page : Page Variance) : Prop :=
  ∀ chainId chain, page chainId = some chain →
    ∃ scan ∈ scans, scan.chainToWrite urls floats chainId = some chain

theorem writtenBy_after (scans : List (Scan Content)) :
    WrittenBy urls floats scans (Book.after urls floats scans).page ∧
      ∀ page, (Book.after urls floats scans).shown = some page →
        WrittenBy urls floats scans page := by
  induction scans using List.reverseRecOn with
  | nil =>
      constructor
      · intro chainId chain hpage
        cases hpage
      · intro page hshown
        cases hshown
  | append_singleton scans scan ih =>
      have hlater : ∀ page, WrittenBy urls floats scans page →
          WrittenBy urls floats (scans ++ [scan]) page := by
        intro page hwritten chainId chain hpage
        obtain ⟨writer, hmem, hwriter⟩ := hwritten chainId chain hpage
        exact ⟨writer, List.mem_append_left _ hmem, hwriter⟩
      have hturn : WrittenBy urls floats (scans ++ [scan])
          (scan.turn urls floats (Book.after urls floats scans).page) := by
        intro chainId chain hpage
        cases turn_eq_some urls floats hpage with
        | inl hwrite => exact ⟨scan, by simp, hwrite⟩
        | inr hold => exact hlater _ ih.1 chainId chain hold
      rw [Book.after, List.foldl_append, ← Book.after, List.foldl_cons,
        List.foldl_nil, Book.record]
      cases hstops : scan.stopsAfter with
      | some count =>
          exact ⟨hturn, fun page hshown => hlater page (ih.2 page hshown)⟩
      | none =>
          constructor
          · exact hturn
          · intro page hshown
            cases hshown
            exact hturn

end Histories

/-- Documents that hold what is written as it is. -/
def plainDocuments :
    Documents (GeneratedChain Unit ⊕ List (LibraryChain Unit)) Unit where
  encodeChain := Sum.inl
  decodeChain := Sum.getLeft?
  encodeChains := Sum.inr
  decodeChains := Sum.getRight?
  reread := id

theorem plainDocuments_readsChains : plainDocuments.ReadsChains :=
  fun _ => rfl

theorem plainDocuments_readsDocument : plainDocuments.ReadsDocument := by
  intro chains
  have hreread : plainDocuments.rereadLibrary = id := rfl
  rw [hreread, List.map_id]
  rfl

/-- URLs that are kept as they are written. -/
def plainUrls : UrlCrate where
  parse text := some ⟨text⟩
  scheme url := String.ofList (url.serialization.toList.takeWhile (· != ':'))
  setScheme url scheme := some ⟨scheme ++
    String.ofList (url.serialization.toList.dropWhile (· != ':'))⟩

/-- A network where one endpoint answers. -/
def reaching (live : String) : Network where
  getBlockNumber url :=
    if url.serialization = live then .ok 7 else .error "timed out"
  completion := id
  completion_perm := fun _ => List.Perm.refl _

/-- A run over one chain with two endpoints, one of which answers. -/
def oneChain : Scan (GeneratedChain Unit ⊕ List (LibraryChain Unit)) where
  sourceChains := [⟨"Five", 5, [⟨"wss://rpc.example/", some "none"⟩,
    ⟨"http://down.example/", some "none"⟩]⟩]
  freshnessHours := 72
  startTime := 1000
  network := fun _ => reaching "wss://rpc.example/"
  connections := fun _ => {
    connectHttp := fun _ =>
      ⟨.error "timed out", fun _ => none, id, fun _ => List.Perm.refl _⟩
    connectWs := fun _ => none }
  clock := fun _ => 1001
  readDir := id
  readDir_perm := fun _ => List.Perm.refl _
  stopsAfter := none

/-- A run a year later that breaks off before it writes the document. -/
def brokenOff : Scan (GeneratedChain Unit ⊕ List (LibraryChain Unit)) :=
  { oneChain with
    sourceChains := [⟨"Five", 5, [⟨"wss://new.example/", none⟩]⟩]
    startTime := 31537000
    network := fun _ => reaching "wss://new.example/"
    stopsAfter := some 1 }

def afterBoth : Store (GeneratedChain Unit ⊕ List (LibraryChain Unit)) :=
  generate plainUrls (fun _ _ => (0, ())) plainDocuments [oneChain, brokenOff]
    ⟨[], .inr []⟩

/-- The file of the chain is that of the second run, the document that of the
first. -/
theorem generate_keeps_brokenOff :
    Keeps plainDocuments (.inr []) afterBoth
        (Book.after plainUrls (fun _ _ => (0, ())) [oneChain, brokenOff]) ∧
      afterBoth.directory.map (fun file =>
        (file.1, (plainDocuments.decodeChain file.2).map (·.rpcs.wss))) =
          [("5.json", some ["wss://new.example/"])] ∧
      (loadChains plainDocuments afterBoth.chainsJson).map (fun chains =>
        getRpcsForChain chains 5 .wss) =
          some (some ["wss://rpc.example/"]) :=
  ⟨generate_keeps _ _ plainDocuments_readsChains plainDocuments_readsDocument
    [oneChain, brokenOff] (.inr []), by decide +kernel, by decide +kernel⟩

/-! ## The endpoint of the daemon -/

section Dial

variable {Provider : Type*}

/-- The daemon with the library it was built with. -/
def withLibrary (web : Gateways.Web Provider)
    (chains : UInt64 → Option (LibraryChain Variance)) :
    Gateways.Web Provider :=
  { web with
    rpcsForChain := fun chainId => getRpcsForChain chains chainId .wss }

/-- The chains that have no endpoint of their own. -/
def builtin (chainId : UInt64) : Bool :=
  chainId == 0 || chainId == 1337 || chainId == 31337

theorem ws_lt_wss {insecure secure : String}
    (hinsecure : "ws:".toList <+: insecure.toList)
    (hsecure : "wss:".toList <+: secure.toList) : insecure < secure := by
  obtain ⟨left, hleft⟩ := hinsecure
  obtain ⟨right, hright⟩ := hsecure
  rw [String.lt_iff_toList_lt, ← hleft, ← hright]
  have hsecond : ':' :: left < 's' :: ':' :: right :=
    List.cons_lt_cons_iff.mpr (Or.inl (by decide))
  simpa using hsecond

/-- A chain with endpoints that was written by a run is the curated one. -/
theorem curated_of_chainToWrite {urls : UrlCrate}
    {floats : List ℕ → ℕ → ℕ × Variance} {scan : Scan Content}
    {chainId : UInt64} {chain : GeneratedChain Variance}
    (hchain : scan.chainToWrite urls floats chainId = some chain)
    (hrpcs : chain.rpcs ≠ .default) :
    ∃ ranked, Curated urls (scan.network chainId)
      (testedTasks urls chainId scan.sourceChains) ranked chain.rpcs := by
  simp only [Scan.chainToWrite] at hchain
  split at hchain
  · cases hchain
  · split at hchain
    · rename_i tested htested
      rw [Option.some.injEq] at hchain
      have hspec := processSingleChainResults_rpcs urls (scan.network chainId)
        floats (scan.connections chainId) chainId (scan.chainName chainId)
        (scan.clock chainId)
        (mem_chainTasks_iff urls chainId scan.sourceChains)
        (nodup_chainTasks urls chainId scan.sourceChains)
      rw [htested] at hspec
      exact hchain ▸ hspec.2
    · rw [Option.some.injEq] at hchain
      exact absurd (by rw [← hchain]) hrpcs

/-- The endpoint leads the WebSockets that earned a score in a run. -/
structure Leads (urls : UrlCrate) (network : Network)
    (tested : Set RpcTask) (best : ScoredRpc) : Prop where
  protocol_eq : best.protocol = .wss
  earns : ∃ task ∈ tested, Earns urls network tested task best
  first : ∀ task ∈ tested, ∀ other, Earns urls network tested task other →
    other.protocol = .wss → other = best ∨ Before best other

/-- A URL without TLS comes first in the alphabet. -/
theorem Leads.secure {urls : UrlCrate} {network : Network}
    {tested : Set RpcTask} {best : ScoredRpc}
    (hleads : Leads urls network tested best)
    (hsecure : "wss:".toList <+: best.url.toList) {task : RpcTask}
    (htask : task ∈ tested) {other : ScoredRpc}
    (hother : Earns urls network tested task other)
    (hprotocol : other.protocol = .wss)
    (hinsecure : "ws:".toList <+: other.url.toList) :
    other.score < best.score := by
  have hlt := ws_lt_wss hinsecure hsecure
  cases hleads.first task htask other hother hprotocol with
  | inl heq => exact absurd hlt (heq ▸ lt_irrefl _)
  | inr hbefore =>
      cases hbefore with
      | inl hscore => exact hscore
      | inr htie => exact absurd hlt (lt_asymm htie.2)

theorem getRpcUrlsForChainId_withLibrary {web : Gateways.Web Provider}
    {chains : UInt64 → Option (LibraryChain Variance)} {chainId : UInt64}
    (hbuiltin : builtin chainId = false) {rpcUrls : List String}
    (hurls : Gateways.getRpcUrlsForChainId (withLibrary web chains) chainId =
      .ok rpcUrls) :
    ∃ chain url, chains chainId = some chain ∧ rpcUrls = [url] ∧
      chain.rpcs.wss.head? = some url := by
  have hids : chainId ≠ 0 ∧ ¬(chainId = 1337 ∨ chainId = 31337) := by
    simpa [builtin, and_assoc] using hbuiltin
  rw [Gateways.getRpcUrlsForChainId, if_neg hids.1, if_neg hids.2] at hurls
  cases hfirst : (getRpcsForChain chains chainId .wss).bind List.head? with
  | none =>
      rw [show (withLibrary web chains).rpcsForChain chainId =
        getRpcsForChain chains chainId .wss from rfl, hfirst] at hurls
      cases hurls
  | some url =>
      rw [show (withLibrary web chains).rpcsForChain chainId =
        getRpcsForChain chains chainId .wss from rfl, hfirst] at hurls
      cases hurls
      obtain ⟨urls, hrpcs, hhead⟩ := Option.bind_eq_some_iff.mp hfirst
      rw [getRpcsForChain] at hrpcs
      cases hchain : chains chainId with
      | none =>
          rw [hchain] at hrpcs
          cases hrpcs
      | some chain =>
          rw [hchain] at hrpcs
          dsimp only at hrpcs
          split at hrpcs
          · cases hrpcs
          · cases hrpcs
            exact ⟨chain, url, rfl, rfl, hhead⟩

variable {urls : UrlCrate}
variable {floats : List ℕ → ℕ → ℕ × Variance}
variable {documents : Documents Content Variance}

variable (urls floats) in
theorem shown_of_complete {scans : List (Scan Content)} {scan : Scan Content}
    (hmem : scan ∈ scans) (hcomplete : scan.stopsAfter = none) :
    ∃ page, (Book.after urls floats scans).shown = some page := by
  induction scans using List.reverseRecOn with
  | nil => cases hmem
  | append_singleton scans next ih =>
      rw [Book.after, List.foldl_append, ← Book.after, List.foldl_cons,
        List.foldl_nil, Book.record]
      cases hstops : next.stopsAfter with
      | none => exact ⟨_, rfl⟩
      | some count =>
          have hne : scan ≠ next := by
            intro heq
            rw [heq, hstops] at hcomplete
            cases hcomplete
          have hearlier : scan ∈ scans := by
            simpa [hne] using hmem
          exact ih hearlier

/-- The daemon dials the endpoint that led the WebSockets of its chain in one of
the runs; a secure one only if it did better than every insecure one. -/
theorem dialed_leads (hreads : documents.ReadsChains)
    (hdocument : documents.ReadsDocument) {scans : List (Scan Content)}
    {last : Scan Content} (hlast : last ∈ scans)
    (hcomplete : last.stopsAfter = none) (initial : Content)
    (web : Gateways.Web Provider) :
    ∃ chains,
      loadChains documents
        (generate urls floats documents scans ⟨[], initial⟩).chainsJson =
          some chains ∧
      ∀ chainId rpcUrls, builtin chainId = false →
        Gateways.getRpcUrlsForChainId (withLibrary web chains) chainId =
          .ok rpcUrls →
        ∃ scan ∈ scans, ∃ best,
          Leads urls (scan.network chainId)
            (testedTasks urls chainId scan.sourceChains) best ∧
          rpcUrls = [best.url] ∧
          ("wss:".toList <+: best.url.toList →
            ∀ task ∈ testedTasks urls chainId scan.sourceChains,
              ∀ other, Earns urls (scan.network chainId)
                (testedTasks urls chainId scan.sourceChains) task other →
                other.protocol = .wss → "ws:".toList <+: other.url.toList →
                other.score < best.score) := by
  obtain ⟨page, hshown⟩ := shown_of_complete urls floats hlast hcomplete
  have hkeeps := generate_keeps urls floats hreads hdocument scans initial
  have hloads := hkeeps.shows
  rw [hshown] at hloads
  refine ⟨_, hloads, ?_⟩
  intro chainId rpcUrls hbuiltin hurls
  obtain ⟨chain, url, hchain, hlist, hhead⟩ :=
    getRpcUrlsForChainId_withLibrary hbuiltin hurls
  obtain ⟨written, hpage, rfl⟩ := Option.map_eq_some_iff.mp hchain
  obtain ⟨scan, hscan, hwrite⟩ :=
    (writtenBy_after urls floats scans).2 page hshown chainId written hpage
  have hhead : written.rpcs.wss.head? = some url := hhead
  have hrpcs : written.rpcs ≠ .default := by
    intro hdefault
    rw [hdefault] at hhead
    cases hhead
  obtain ⟨ranked, hcurated⟩ := curated_of_chainToWrite hwrite hrpcs
  obtain ⟨best, hbest, hprotocol, hurl, hfirst⟩ := hcurated.head_wss hhead
  have hleads : Leads urls (scan.network chainId)
      (testedTasks urls chainId scan.sourceChains) best := by
    refine ⟨hprotocol, (hcurated.mem_iff best).mp hbest, ?_⟩
    intro task htask other hother
    exact hfirst other ((hcurated.mem_iff other).mpr ⟨task, htask, hother⟩)
  refine ⟨scan, hscan, best, hleads, by rw [hlist, hurl], ?_⟩
  intro hsecure task htask other hother
  exact hleads.secure hsecure htask hother

end Dial

/-- A web without any endpoint but those of the library. -/
def bareWeb : Gateways.Web Unit where
  parseUrl := fun text => .ok ⟨text⟩
  connectWs := fun _ => some ()
  tokenUri := fun _ _ _ => .error "no such token"
  rpcsForChain := fun _ => none

/-- Chain 5 resolves to the endpoint that answered. -/
theorem dialed_leads_oneChain :
    ∃ chains,
      loadChains plainDocuments
        (generate plainUrls (fun _ _ => (0, ())) plainDocuments [oneChain]
          ⟨[], .inr []⟩).chainsJson = some chains ∧
      Gateways.getRpcUrlsForChainId (withLibrary bareWeb chains) 5 =
        .ok ["wss://rpc.example/"] ∧
      ∃ best,
        Leads plainUrls (oneChain.network 5)
          (testedTasks plainUrls 5 oneChain.sourceChains) best ∧
        best.url = "wss://rpc.example/" ∧
        ∀ task ∈ testedTasks plainUrls 5 oneChain.sourceChains,
          ∀ other, Earns plainUrls (oneChain.network 5)
            (testedTasks plainUrls 5 oneChain.sourceChains) task other →
            other.protocol = .wss → "ws:".toList <+: other.url.toList →
            other.score < best.score := by
  obtain ⟨chains, hloads, hdialed⟩ :=
    dialed_leads plainDocuments_readsChains plainDocuments_readsDocument
      (List.mem_singleton_self oneChain) rfl (.inr []) bareWeb
  have hresolved : (loadChains plainDocuments
      (generate plainUrls (fun _ _ => (0, ())) plainDocuments [oneChain]
        ⟨[], .inr []⟩).chainsJson).map (fun chains =>
          Gateways.getRpcUrlsForChainId (withLibrary bareWeb chains) 5) =
      some (.ok ["wss://rpc.example/"]) := by
    decide +kernel
  rw [hloads, Option.map_some, Option.some.injEq] at hresolved
  obtain ⟨scan, hscan, best, hleads, hurl, hsecure⟩ :=
    hdialed 5 _ rfl hresolved
  obtain rfl := List.mem_singleton.mp hscan
  have hbest : best.url = "wss://rpc.example/" := by
    simpa using hurl.symm
  refine ⟨chains, hloads, hresolved, best, hleads, hbest, hsecure ?_⟩
  rw [hbest]
  decide

end NxccBridge.Chainlist
