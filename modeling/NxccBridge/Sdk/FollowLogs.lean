import NxccBridge.Core.Chunks

/-!
# Following the log of a worker

`worker_logs_handler` of `node/daemon/src/http_server.rs` makes a server-sent
event of each response of the enclave, and `streamLogs` of
`sdk/cli/src/commands/worker.ts` prints what it finds in them.  Writing an event
is axum's, and putting the chunks of the body into text the decoder's.
-/

namespace NxccBridge.FollowLogs

open NxccBridge.Chunks
open NxccBridge.Lines

abbrev Text := List Char

/-! ## The daemon -/

/-- An event with its data. -/
structure SseEvent where
  data : Text
  event : Text

/-- A response of the log stream of the enclave, or its error, as an event. -/
def sseEvent : Except Text Text → SseEvent
  | .ok logLine => { data := logLine, event := "log".toList }
  | .error error =>
      { data := "Error: ".toList ++ error, event := "error".toList }

/-- What axum sends: an event, or a comment when it has been quiet. -/
inductive SseItem
  | event (event : SseEvent)
  | keepAlive (text : Text)

/-- The items of a follower: responses of the enclave, with a comment now and
then. -/
def sseItem : Option (Except Text Text) → SseItem
  | some response => .event (sseEvent response)
  | none => .keepAlive "keep-alive".toList

def sseBody (write : SseItem → Text)
    (responses : List (Option (Except Text Text))) : Text :=
  responses.flatMap fun response => write (sseItem response)

/-! ## The command line -/

/-- White space and line terminators of JavaScript. -/
def isSpace (char : Char) : Bool :=
  char.toNat ∈ [0x9, 0xA, 0xB, 0xC, 0xD, 0x20, 0xA0, 0x1680, 0x2028, 0x2029,
    0x202F, 0x205F, 0x3000, 0xFEFF] ||
    (0x2000 ≤ char.toNat && char.toNat ≤ 0x200A)

/-- Of these data something is printed. -/
def isShown (logData : Text) : Bool :=
  !logData.all isSpace && logData != "keep-alive".toList

def shownLine (line : Text) : Option Text :=
  if "data: ".toList.isPrefixOf line then
    let logData := line.drop 6
    if isShown logData then some logData else none
  else none

/-- The buffer of the loop, and what it has printed. -/
structure Loop where
  buffer : Text
  printed : List Text

/-- The loop with one more piece of text. -/
def Loop.read (self : Loop) (value : Text) : Loop :=
  let lines := (self.buffer ++ value).splitOn '\n'
  { buffer := lines.getLast?.getD []
    printed := self.printed ++ lines.dropLast.filterMap shownLine }

/-- What is printed for the texts of the chunks. -/
def streamLogs (values : List Text) : List Text :=
  (values.foldl Loop.read ⟨[], []⟩).printed

/-! ## What a follower is to see -/

/-- The lines of the data of an event that are not blank. -/
def shown (responses : List (Option (Except Text Text))) : List Text :=
  responses.flatMap fun response =>
    match response with
    | some response => ((sseEvent response).data.splitOn '\n').filter isShown
    | none => []

/-- No response has a carriage return, which axum takes for the end of a line
and the command line does not. -/
def Carried (responses : List (Option (Except Text Text))) : Prop :=
  ∀ response, some response ∈ responses → '\r' ∉ (sseEvent response).data

/-- The lines of the data, of which empty data has none. -/
def dataLines (data : Text) : List Text :=
  if data = [] then [] else data.splitOn '\n'

/-- The lines of an item: a field for each line of the data, the name of the
event, and an empty line. -/
def itemLines : SseItem → List Text
  | .event event =>
      (dataLines event.data).map ("data: ".toList ++ ·) ++
        ["event: ".toList ++ event.event, []]
  | .keepAlive text => [": ".toList ++ text, []]

/-- axum writes data without a carriage return, and comments, line by line. -/
structure Documented (write : SseItem → Text) : Prop where
  event : ∀ event, '\r' ∉ event.data →
    write (.event event) = terminated '\n' (itemLines (.event event))
  keepAlive : ∀ text, '\r' ∉ text → '\n' ∉ text →
    write (.keepAlive text) = terminated '\n' (itemLines (.keepAlive text))

/-! ## The loop reads lines -/

/-- Line by line, the loop prints what the reader of the lines finds. -/
theorem streamLogs_eq (values : List Text) :
    streamLogs values = (readAll '\n' values).lines.filterMap shownLine := by
  have hloop : values.foldl Loop.read ⟨[], []⟩ = {
      buffer := (readAll '\n' values).buffer
      printed := (readAll '\n' values).lines.filterMap shownLine } := by
    induction values using List.reverseRecOn with
    | nil => rfl
    | append_singleton before value ih =>
        rw [List.foldl_append, ih, readAll_concat]
        simp only [List.foldl_cons, List.foldl_nil, Loop.read, Reader.feed,
          List.filterMap_append]
  rw [streamLogs, hloop]

theorem shownLine_data (line : Text) :
    shownLine ("data: ".toList ++ line) =
      if isShown line then some line else none := by
  have hprefix : "data: ".toList.isPrefixOf ("data: ".toList ++ line) =
      true := List.isPrefixOf_iff_prefix.mpr (List.prefix_append _ _)
  have hdrop : ("data: ".toList ++ line).drop 6 = line :=
    List.drop_left' (by decide)
  rw [shownLine, if_pos hprefix, hdrop]

/-- The field that empty data does not get would not be printed. -/
theorem dataLines_filter (data : Text) :
    (dataLines data).filter isShown = (data.splitOn '\n').filter isShown := by
  rw [dataLines]
  split
  next hempty =>
    rw [hempty]
    decide
  · rfl

theorem newline_not_mem_dataLines {data line : Text}
    (hline : line ∈ dataLines data) : '\n' ∉ line := by
  rw [dataLines] at hline
  split at hline
  · cases hline
  · exact not_mem_of_mem_splitOn hline

/-- Only the data are printed. -/
theorem shownLine_itemLines (response : Option (Except Text Text)) :
    (itemLines (sseItem response)).filterMap shownLine =
      shown [response] := by
  cases response with
  | none => decide
  | some response =>
      have hevent : (["event: ".toList ++ (sseEvent response).event,
          []] : List Text).filterMap shownLine = [] := by
        cases response with
        | ok logLine =>
            show (["event: ".toList ++ "log".toList, []] : List Text).filterMap
              shownLine = []
            decide
        | error error =>
            show (["event: ".toList ++ "error".toList, []] :
              List Text).filterMap shownLine = []
            decide
      have hdata : ∀ lines : List Text,
          (lines.map ("data: ".toList ++ ·)).filterMap shownLine =
            lines.filter isShown := by
        intro lines
        have hshown : shownLine ∘ ("data: ".toList ++ ·) =
            Option.guard isShown := by
          funext line
          exact shownLine_data line
        rw [List.filterMap_map, hshown, List.filterMap_eq_filter]
      simp only [sseItem, itemLines, List.filterMap_append, hdata, hevent,
        dataLines_filter, List.append_nil, shown, List.flatMap_cons,
        List.flatMap_nil]

theorem newline_not_mem_itemLines (response : Option (Except Text Text)) :
    ∀ line ∈ itemLines (sseItem response), '\n' ∉ line := by
  cases response with
  | none => decide
  | some response =>
      have hevent : '\n' ∉ "event: ".toList ++ (sseEvent response).event := by
        cases response with
        | ok logLine =>
            show '\n' ∉ "event: ".toList ++ "log".toList
            decide
        | error error =>
            show '\n' ∉ "event: ".toList ++ "error".toList
            decide
      have hname : '\n' ∉ "data: ".toList := by decide
      intro line hline
      simp only [sseItem, itemLines, List.mem_append, List.mem_map,
        List.mem_cons, List.not_mem_nil, or_false] at hline
      rcases hline with ⟨piece, hpiece, rfl⟩ | rfl | rfl
      · rw [List.mem_append, not_or]
        exact ⟨hname, newline_not_mem_dataLines hpiece⟩
      · exact hevent
      · exact List.not_mem_nil

variable {write : SseItem → Text}
variable {responses : List (Option (Except Text Text))}

/-- The body is written line by line. -/
theorem sseBody_eq (hwrite : Documented write) (hcarried : Carried responses) :
    sseBody write responses = terminated '\n'
      (responses.flatMap fun response => itemLines (sseItem response)) := by
  rw [sseBody, terminated, List.flatMap_assoc]
  apply List.flatMap_congr
  intro response hmem
  cases response with
  | none => exact hwrite.keepAlive _ (by decide) (by decide)
  | some response => exact hwrite.event _ (hcarried response hmem)

theorem shown_eq (responses : List (Option (Except Text Text))) :
    (responses.flatMap fun response =>
      itemLines (sseItem response)).filterMap shownLine =
        shown responses := by
  induction responses with
  | nil => rfl
  | cons response rest ih =>
      rw [List.flatMap_cons, List.filterMap_append, ih, shownLine_itemLines]
      simp only [shown, List.flatMap_cons, List.flatMap_nil, List.append_nil]

/-- However the network cuts the body into chunks: a follower prints every line
of the log that is not blank, once and in order, and of a body that breaks off
the first ones of these. -/
theorem follower_prints (hwrite : Documented write)
    (hcarried : Carried responses) {values : List Text}
    (hvalues : values.flatten <+: sseBody write responses) :
    streamLogs values <+: shown responses ∧
      (values.flatten = sseBody write responses →
        streamLogs values = shown responses) := by
  have hclean : ∀ line ∈ responses.flatMap fun response =>
      itemLines (sseItem response), '\n' ∉ line := by
    intro line hline
    obtain ⟨response, -, hline⟩ := List.mem_flatMap.mp hline
    exact newline_not_mem_itemLines response line hline
  rw [sseBody_eq hwrite hcarried] at hvalues ⊢
  rw [streamLogs_eq, ← shown_eq]
  constructor
  · exact (readAll_truncated hclean hvalues).filterMap shownLine
  · intro hwhole
    rw [readAll_terminated hclean hwhole]

/-! ## A log of two responses -/

/-- What axum does with data without a carriage return. -/
def writeItem (item : SseItem) : Text := terminated '\n' (itemLines item)

/-- A response of two lines, a comment, and an error. -/
def twoResponses : List (Option (Except Text Text)) :=
  [some (.ok "up\nready".toList), none, some (.error "gone".toList)]

/-- The chunks are cut within a name, within a value and before a newline. -/
theorem follower_prints_cut :
    streamLogs [(sseBody writeItem twoResponses).take 3,
        ((sseBody writeItem twoResponses).drop 3).take 15,
        (sseBody writeItem twoResponses).drop 18] =
      ["up".toList, "ready".toList, "Error: gone".toList] := by
  have hwhole : [(sseBody writeItem twoResponses).take 3,
      ((sseBody writeItem twoResponses).drop 3).take 15,
      (sseBody writeItem twoResponses).drop 18].flatten =
        sseBody writeItem twoResponses := by
    decide
  have hwrite : Documented writeItem := ⟨fun _ _ => rfl, fun _ _ _ => rfl⟩
  have hcarried : Carried twoResponses := by
    intro response hmem
    simp only [twoResponses, List.mem_cons, Option.some.injEq, reduceCtorEq,
      List.not_mem_nil, or_false, false_or] at hmem
    cases hmem with
    | inl hfirst => exact hfirst ▸ by decide
    | inr hsecond => exact hsecond ▸ by decide
  have hprinted := (follower_prints hwrite hcarried
    (hwhole ▸ List.prefix_rfl)).2 hwhole
  rw [hprinted]
  decide

end NxccBridge.FollowLogs
