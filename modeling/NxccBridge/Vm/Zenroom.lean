import NxccBridge.Core.Base64
import NxccBridge.Core.Lines
import NxccBridge.Core.Text

/-!
# Input of the Zenroom process

`vm/zenroom/src/vmm/mod.rs`.  A worker's script runs in a process that reads six
lines from its standard input: the configuration as it is and the five other
inputs in base64.
-/

namespace NxccBridge.Zenroom

open Function
open NxccBridge.Framing
open NxccBridge.Lines
open NxccBridge.Text

/-! ## The configuration string -/

structure ZenroomConfig where
  maxConfBytes : ℕ
  allowDebugConf : Bool
  deriving DecidableEq

/-- The configuration of the normalized worker configuration. -/
def normalizedConf (conf : Option String) : String := conf.getD "debug=0"

/-- The entry of a part between commas, unless it is empty or sets `debug`. -/
def confEntry (part : List Char) : Option (List Char) :=
  let trimmed := trim part
  if trimmed = [] then none
  else if trimmed.takeWhile (· ≠ '=') = "debug".toList then none
  else some trimmed

def keptEntries (conf : String) : List (List Char) :=
  (conf.toList.splitOn ',').filterMap confEntry

def adjustedConf (config : ZenroomConfig) (conf : String) : String :=
  if config.allowDebugConf then conf
  else String.ofList
    ([','].intercalate (keptEntries conf ++ ["debug=0".toList]))

def buildConf (config : ZenroomConfig) (conf : String) :
    Except String String :=
  let adjusted := adjustedConf config conf
  if config.maxConfBytes < (utf8 adjusted).length then
    .error ("Zenroom conf length " ++ toString (utf8 adjusted).length ++
      " exceeds max " ++ toString config.maxConfBytes)
  else .ok adjusted

/-! ## The standard input -/

/-- What one execution is given; `Value` stands for `serde_json::Value`. -/
@[ext]
structure ZenroomInputs (Value : Type) where
  conf : String
  script : String
  keys : Value
  data : Value
  extra : Value
  context : Value
  deriving DecidableEq

variable {Value : Type}

/-- `serde_json::to_string(value).unwrap_or_default()`. -/
def jsonText (toText : Value → Except String String) (value : Value) :
    String :=
  match toText value with
  | .ok text => text
  | .error _ => ""

variable (toText : Value → Except String String)

/-- The bytes that `execute_zenroom` writes to the process. -/
def stdin (inputs : ZenroomInputs Value) : Bytes :=
  utf8 inputs.conf ++ newline ::
    (Base64.encode (utf8 inputs.script) ++ newline ::
    (Base64.encode (utf8 (jsonText toText inputs.keys)) ++ newline ::
    (Base64.encode (utf8 (jsonText toText inputs.data)) ++ newline ::
    (Base64.encode (utf8 (jsonText toText inputs.extra)) ++ newline ::
    (Base64.encode (utf8 (jsonText toText inputs.context)) ++ [newline])))))

/-- The five protected lines. -/
def encodedSlots (inputs : ZenroomInputs Value) : List Bytes :=
  [utf8 inputs.script, utf8 (jsonText toText inputs.keys),
    utf8 (jsonText toText inputs.data), utf8 (jsonText toText inputs.extra),
    utf8 (jsonText toText inputs.context)].map Base64.encode

/-- The six lines as they are meant. -/
def slots (inputs : ZenroomInputs Value) : List Bytes :=
  utf8 inputs.conf :: encodedSlots toText inputs

theorem stdin_eq_terminated (inputs : ZenroomInputs Value) :
    stdin toText inputs = terminated newline (slots toText inputs) := by
  simp only [stdin, slots, encodedSlots, List.map_cons, List.map_nil,
    terminated_cons]
  rfl

theorem newline_not_mem_base64 (bytes : Bytes) :
    newline ∉ Base64.encode bytes := by
  intro hmem
  have hprintable := Base64.encode_printable bytes newline hmem
  exact absurd hprintable (by decide)

theorem newline_not_mem_encodedSlots (inputs : ZenroomInputs Value) :
    ∀ slot ∈ encodedSlots toText inputs, newline ∉ slot := by
  intro slot hslot
  obtain ⟨bytes, -, rfl⟩ := List.mem_map.mp hslot
  exact newline_not_mem_base64 bytes

/-- The lines are clean when the configuration is one line. -/
theorem newline_not_mem_slots_iff (inputs : ZenroomInputs Value) :
    (∀ slot ∈ slots toText inputs, newline ∉ slot) ↔
      '\n' ∉ inputs.conf.toList := by
  rw [slots, List.forall_mem_cons, newline_mem_utf8_iff]
  exact and_iff_left (newline_not_mem_encodedSlots toText inputs)

/-! ## Newlines that survive -/

/-- Nothing that `build_conf` keeps of the string contains a newline. -/
def OnOneLine (config : ZenroomConfig) (conf : String) : Prop :=
  if config.allowDebugConf then '\n' ∉ conf.toList
  else ∀ entry ∈ keptEntries conf, '\n' ∉ entry

theorem newline_not_mem_adjustedConf_iff (config : ZenroomConfig)
    (conf : String) :
    '\n' ∉ (adjustedConf config conf).toList ↔ OnOneLine config conf := by
  have hdebug : '\n' ∉ "debug=0".toList := by decide
  rw [adjustedConf, OnOneLine]
  split_ifs with hallow
  · exact Iff.rfl
  · rw [String.toList_ofList, mem_intercalate_iff (by decide)]
    simp only [not_exists, not_and, List.forall_mem_append,
      List.forall_mem_singleton]
    exact and_iff_left hdebug

theorem buildConf_eq_ok {config : ZenroomConfig} {conf adjusted : String}
    (hbuild : buildConf config conf = .ok adjusted) :
    adjusted = adjustedConf config conf := by
  rw [buildConf] at hbuild
  split_ifs at hbuild with hlong
  exact (Except.ok.inj hbuild).symm

theorem slots_clean_iff {config : ZenroomConfig} {conf : String}
    {inputs : ZenroomInputs Value}
    (hbuild : buildConf config conf = .ok inputs.conf) :
    (∀ slot ∈ slots toText inputs, newline ∉ slot) ↔ OnOneLine config conf := by
  rw [newline_not_mem_slots_iff, buildConf_eq_ok hbuild]
  exact newline_not_mem_adjustedConf_iff config conf

/-- The bytes tell the inputs, read from the end. -/
theorem stdin_injective (hinjective : Injective (jsonText toText)) :
    Injective (stdin toText) := by
  intro left right heq
  rw [stdin_eq_terminated, stdin_eq_terminated, slots, slots, terminated_cons,
    terminated_cons] at heq
  obtain ⟨hconf, hslots⟩ := append_terminated_inj
    (newline_not_mem_encodedSlots toText left)
    (newline_not_mem_encodedSlots toText right) rfl heq
  have htexts := List.map_injective_iff.mpr Base64.encode_injective hslots
  simp only [List.cons.injEq, utf8_injective.eq_iff, hinjective.eq_iff,
    and_true] at htexts
  obtain ⟨hscript, hkeys, hdata, hextra, hcontext⟩ := htexts
  exact ZenroomInputs.ext (utf8_injective hconf) hscript hkeys hdata hextra
    hcontext

/-- The process finds the six inputs, each in its line, exactly when what is
kept of the configuration is one line; the bytes differ for different inputs
in any case. -/
theorem stdin_framed_iff (hinjective : Injective (jsonText toText)) :
    (∀ (config : ZenroomConfig) (conf : Option String)
      (inputs : ZenroomInputs Value),
      buildConf config (normalizedConf conf) = .ok inputs.conf →
        (linesOf newline (stdin toText inputs) = slots toText inputs ↔
          OnOneLine config (normalizedConf conf)) ∧
        ((linesOf newline (stdin toText inputs)).take 6 =
            slots toText inputs ↔
          OnOneLine config (normalizedConf conf))) ∧
    Injective (stdin toText) := by
  refine ⟨?_, stdin_injective toText hinjective⟩
  intro config conf inputs hbuild
  rw [stdin_eq_terminated, ← slots_clean_iff toText hbuild]
  constructor
  · exact linesOf_terminated_iff newline _
  · have hlength : (slots toText inputs).length = 6 := rfl
    rw [← hlength]
    exact take_linesOf_terminated_iff newline _

/-! ## Configurations of two entries -/

/-- Values that are booleans, as `serde_json` writes them. -/
def boolText (value : Bool) : Except String String :=
  .ok (if value then "true" else "false")

def plainInputs (conf : String) : ZenroomInputs Bool where
  conf := conf
  script := "print('ok')"
  keys := true
  data := false
  extra := false
  context := true

def defaultZenroomConfig : ZenroomConfig where
  maxConfBytes := 4096
  allowDebugConf := false

/-- A newline inside an entry survives, and the process finds seven lines. -/
theorem stdin_framing_broken :
    buildConf defaultZenroomConfig "a=1\nb=2" = .ok "a=1\nb=2,debug=0" ∧
    (linesOf newline (stdin boolText
      (plainInputs "a=1\nb=2,debug=0"))).length = 7 ∧
    linesOf newline (stdin boolText (plainInputs "a=1\nb=2,debug=0")) ≠
      slots boolText (plainInputs "a=1\nb=2,debug=0") := by
  have hlength : (linesOf newline (stdin boolText
      (plainInputs "a=1\nb=2,debug=0"))).length = 7 := by
    decide +kernel
  refine ⟨by decide +kernel, hlength, ?_⟩
  intro heq
  rw [heq] at hlength
  exact absurd hlength (by decide)

theorem jsonText_boolText_injective : Injective (jsonText boolText) := by
  intro left right heq
  cases left <;> cases right <;> first | rfl | exact absurd heq (by decide)

/-- With the entries on one line a worker is read as it was meant, and other
keys are other bytes. -/
theorem stdin_framed_entries :
    linesOf newline (stdin boolText
        (plainInputs "rngseed=hex:00,logfmt=json,debug=0")) =
      slots boolText (plainInputs "rngseed=hex:00,logfmt=json,debug=0") ∧
    stdin boolText (plainInputs "rngseed=hex:00,logfmt=json,debug=0") ≠
      stdin boolText { plainInputs "rngseed=hex:00,logfmt=json,debug=0" with
        keys := false } := by
  have hframed := stdin_framed_iff boolText jsonText_boolText_injective
  have hkept : keptEntries (normalizedConf
      (some "rngseed=hex:00, debug=2,logfmt=json")) =
      ["rngseed=hex:00".toList, "logfmt=json".toList] := by
    decide +kernel
  constructor
  · apply (hframed.1 defaultZenroomConfig
      (some "rngseed=hex:00, debug=2,logfmt=json") _
      (by decide +kernel)).1.mpr
    rw [OnOneLine, if_neg (by decide), hkept]
    decide
  · intro hsame
    exact absurd (congrArg ZenroomInputs.keys (hframed.2 hsame)) (by decide)

end NxccBridge.Zenroom
