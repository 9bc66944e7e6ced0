import NxccBridge.Vm.Zenroom

/-!
# The debug setting of Zenroom

The operator forbids workers to choose the debug level: `build_conf` drops their
`debug` entries and appends `debug=0`.  This module reads the adjusted
configuration the way the process does and finds when it sets `debug` once.

The reader skips blanks around a key, and `build_conf` does not skip the blanks
between the key and the equals sign.
-/

namespace NxccBridge.Zenroom

open NxccBridge.Framing
open NxccBridge.Lines
open NxccBridge.Text

/-- The entries of a configuration, without the blanks around them. -/
def entriesOf (conf : String) : List (List Char) :=
  ((conf.toList.splitOn ',').map trim).filter (· ≠ [])

/-- The text in front of the first equals sign. -/
def rawKey (entry : List Char) : List Char :=
  entry.takeWhile (· ≠ '=')

section Reader

variable (blank : Char → Bool)

/-! ## What the process reads -/

def readKey (entry : List Char) : List Char :=
  trimBlanks blank (rawKey entry)

def readValue (entry : List Char) : List Char :=
  trimBlanks blank ((entry.dropWhile (· ≠ '=')).drop 1)

def SetsDebug (entry : List Char) : Prop :=
  readKey blank entry = "debug".toList

instance (entry : List Char) : Decidable (SetsDebug blank entry) :=
  inferInstanceAs (Decidable (readKey blank entry = "debug".toList))

/-- The values of `debug` in the order in which they are set. -/
def debugSettings (conf : String) : List (List Char) :=
  ((conf.toList.splitOn ',').filter (SetsDebug blank ·)).map (readValue blank)

/-- The entries that do not set `debug`. -/
def otherEntries (conf : String) : List (List Char) :=
  (entriesOf conf).filter (¬ SetsDebug blank ·)

/-- What the operator asks for of an adjusted configuration. -/
structure DebugDenied (config : ZenroomConfig) (conf adjusted : String) :
    Prop where
  settings : debugSettings blank adjusted = ["0".toList]
  others : otherEntries blank adjusted = otherEntries blank conf
  bounded : (utf8 adjusted).length ≤ config.maxConfBytes

/-- No key reads as `debug` without being written as `debug`. -/
def NoPaddedDebug (conf : String) : Prop :=
  ∀ entry ∈ entriesOf conf,
    SetsDebug blank entry → rawKey entry = "debug".toList

instance (conf : String) : Decidable (NoPaddedDebug blank conf) :=
  inferInstanceAs (Decidable (∀ entry ∈ entriesOf conf,
    SetsDebug blank entry → rawKey entry = "debug".toList))

end Reader

/-! ## What is kept -/

theorem comma_not_mem_of_mem_entriesOf {conf : String} {entry : List Char}
    (hentry : entry ∈ entriesOf conf) : ',' ∉ entry := by
  intro hcomma
  obtain ⟨hentry, -⟩ := List.mem_filter.mp hentry
  obtain ⟨part, hpart, rfl⟩ := List.mem_map.mp hentry
  rw [trim_eq_trimBlanks] at hcomma
  exact not_mem_of_mem_splitOn hpart (mem_of_mem_trimBlanks hcomma)

theorem trim_of_mem_entriesOf {conf : String} {entry : List Char}
    (hentry : entry ∈ entriesOf conf) : trim entry = entry := by
  obtain ⟨hentry, -⟩ := List.mem_filter.mp hentry
  obtain ⟨part, -, rfl⟩ := List.mem_map.mp hentry
  simp only [trim_eq_trimBlanks]
  exact trimBlanks_trimBlanks isWhitespace part

theorem confEntry_eq (part : List Char) :
    confEntry part =
      if trim part ≠ [] ∧ rawKey (trim part) ≠ "debug".toList then
        some (trim part)
      else none := by
  simp only [confEntry, rawKey]
  split_ifs <;> simp_all

/-- Of the entries those are kept whose key is not written `debug`. -/
theorem keptEntries_eq (conf : String) :
    keptEntries conf =
      (entriesOf conf).filter (rawKey · ≠ "debug".toList) := by
  rw [keptEntries, entriesOf, List.filter_filter, List.filter_map,
    ← List.filterMap_eq_map, ← List.filterMap_eq_filter,
    List.filterMap_filterMap]
  apply List.filterMap_congr
  intro part _
  rw [confEntry_eq]
  simp only [Option.guard, Function.comp_apply]
  split_ifs <;> simp_all

theorem mem_entriesOf_of_mem_keptEntries {conf : String} {entry : List Char}
    (hentry : entry ∈ keptEntries conf) : entry ∈ entriesOf conf := by
  rw [keptEntries_eq] at hentry
  exact (List.mem_filter.mp hentry).1

/-- The parts between the commas of the adjusted configuration. -/
theorem splitOn_adjustedConf {config : ZenroomConfig}
    (hdeny : config.allowDebugConf = false) (conf : String) :
    (adjustedConf config conf).toList.splitOn ',' =
      keptEntries conf ++ ["debug=0".toList] := by
  rw [adjustedConf, hdeny, if_neg Bool.false_ne_true, String.toList_ofList]
  apply List.splitOn_intercalate
  · intro entry hentry
    rw [List.mem_append, List.mem_singleton] at hentry
    cases hentry with
    | inl hkept =>
        exact comma_not_mem_of_mem_entriesOf
          (mem_entriesOf_of_mem_keptEntries hkept)
    | inr hlast =>
        rw [hlast]
        decide
  · exact List.append_ne_nil_of_right_ne_nil _ (List.cons_ne_nil _ _)

theorem entriesOf_adjustedConf {config : ZenroomConfig}
    (hdeny : config.allowDebugConf = false) (conf : String) :
    entriesOf (adjustedConf config conf) =
      keptEntries conf ++ ["debug=0".toList] := by
  have htrim : (keptEntries conf).map trim = keptEntries conf := by
    conv_rhs => rw [← List.map_id (keptEntries conf)]
    apply List.map_congr_left
    intro entry hentry
    exact trim_of_mem_entriesOf (mem_entriesOf_of_mem_keptEntries hentry)
  have hnonempty : (keptEntries conf).filter (· ≠ []) = keptEntries conf := by
    apply List.filter_eq_self.mpr
    intro entry hentry
    exact (List.mem_filter.mp (mem_entriesOf_of_mem_keptEntries hentry)).2
  rw [entriesOf, splitOn_adjustedConf hdeny, List.map_append, htrim,
    List.filter_append, hnonempty]
  congr 1

/-! ## What is read back -/

section Reader

variable {blank : Char → Bool}

/-- Text without white space is read as it is. -/
theorem trimBlanks_of_no_whitespace
    (hblank : ∀ char, blank char → isWhitespace char) {text : List Char}
    (htext : text.any isWhitespace = false) :
    trimBlanks blank text = text :=
  trimBlanks_eq_self fun char hmem hchar =>
    List.any_eq_false.mp htext char hmem (hblank char hchar)

theorem setsDebug_of_rawKey (hblank : ∀ char, blank char → isWhitespace char)
    {entry : List Char} (hkey : rawKey entry = "debug".toList) :
    SetsDebug blank entry := by
  rw [SetsDebug, readKey, hkey]
  exact trimBlanks_of_no_whitespace hblank (by decide)

theorem readValue_debugDenied
    (hblank : ∀ char, blank char → isWhitespace char) :
    readValue blank "debug=0".toList = "0".toList :=
  trimBlanks_of_no_whitespace hblank (by decide)

/-- The settings that survive, then the one that is appended. -/
theorem debugSettings_adjustedConf
    (hblank : ∀ char, blank char → isWhitespace char) {config : ZenroomConfig}
    (hdeny : config.allowDebugConf = false) (conf : String) :
    debugSettings blank (adjustedConf config conf) =
      ((keptEntries conf).filter (SetsDebug blank ·)).map (readValue blank) ++
        ["0".toList] := by
  have hlast : SetsDebug blank "debug=0".toList :=
    setsDebug_of_rawKey hblank (by decide)
  rw [debugSettings, splitOn_adjustedConf hdeny, List.filter_append,
    List.filter_singleton, decide_eq_true hlast, List.map_append]
  exact congrArg _ (congrArg (fun value => [value])
    (readValue_debugDenied hblank))

/-- No kept entry sets `debug` exactly when no key is padded. -/
theorem kept_settings_eq_nil_iff (conf : String) :
    (keptEntries conf).filter (SetsDebug blank ·) = [] ↔
      NoPaddedDebug blank conf := by
  rw [keptEntries_eq, List.filter_filter, List.filter_eq_nil_iff,
    NoPaddedDebug]
  apply forall₂_congr
  intro entry _
  simp

theorem debugSettings_adjustedConf_iff
    (hblank : ∀ char, blank char → isWhitespace char) {config : ZenroomConfig}
    (hdeny : config.allowDebugConf = false) (conf : String) :
    debugSettings blank (adjustedConf config conf) = ["0".toList] ↔
      NoPaddedDebug blank conf := by
  rw [debugSettings_adjustedConf hblank hdeny, List.append_left_eq_self,
    List.map_eq_nil_iff]
  exact kept_settings_eq_nil_iff conf

/-- The other entries are kept in their order. -/
theorem otherEntries_adjustedConf
    (hblank : ∀ char, blank char → isWhitespace char) {config : ZenroomConfig}
    (hdeny : config.allowDebugConf = false) (conf : String) :
    otherEntries blank (adjustedConf config conf) = otherEntries blank conf := by
  have hlast : SetsDebug blank "debug=0".toList :=
    setsDebug_of_rawKey hblank (by decide)
  have hnone : ["debug=0".toList].filter (¬ SetsDebug blank ·) = [] := by
    rw [List.filter_singleton, decide_eq_false (not_not.mpr hlast)]
    rfl
  rw [otherEntries, entriesOf_adjustedConf hdeny, List.filter_append, hnone,
    List.append_nil, keptEntries_eq, List.filter_filter, otherEntries]
  apply List.filter_congr
  intro entry _
  simp only [← Bool.decide_and, decide_eq_decide]
  exact and_iff_left_of_imp fun hother hkey =>
    hother (setsDebug_of_rawKey hblank hkey)

end Reader

theorem length_of_buildConf_eq_ok {config : ZenroomConfig}
    {conf adjusted : String} (hbuild : buildConf config conf = .ok adjusted) :
    (utf8 adjusted).length ≤ config.maxConfBytes := by
  have hadjusted := buildConf_eq_ok hbuild
  rw [buildConf] at hbuild
  split_ifs at hbuild with hlong
  rw [hadjusted]
  exact Nat.le_of_not_lt hlong

/-- Whatever class of white space the process skips, it finds `debug` set once,
to `0`, exactly when no key reads as `debug` without being written so. -/
theorem debugDenied_iff (blank : Char → Bool)
    (hblank : ∀ char, blank char → isWhitespace char) (config : ZenroomConfig)
    (hdeny : config.allowDebugConf = false) (conf adjusted : String)
    (hbuild : buildConf config conf = .ok adjusted) :
    DebugDenied blank config conf adjusted ↔ NoPaddedDebug blank conf := by
  have hsettings := debugSettings_adjustedConf_iff hblank hdeny conf
  have hothers := otherEntries_adjustedConf hblank hdeny conf
  rw [← buildConf_eq_ok hbuild] at hsettings hothers
  constructor
  · intro hdenied
    exact hsettings.mp hdenied.settings
  · intro hpadded
    exact ⟨hsettings.mpr hpadded, hothers, length_of_buildConf_eq_ok hbuild⟩

/-- A repeated setting and one without a value are dropped. -/
theorem debugDenied_repeated :
    DebugDenied isWhitespace defaultZenroomConfig "debug=3, a = 1,debug"
      "a = 1,debug=0" :=
  (debugDenied_iff isWhitespace (fun _ hblank => hblank) defaultZenroomConfig
    rfl "debug=3, a = 1,debug" "a = 1,debug=0" (by decide +kernel)).mpr
    (by decide)

/-- A blank in front of the equals sign keeps the worker's setting. -/
theorem debugDenied_padded :
    buildConf defaultZenroomConfig "debug =1" = .ok "debug =1,debug=0" ∧
    debugSettings isWhitespace "debug =1,debug=0" =
      ["1".toList, "0".toList] ∧
    ¬ DebugDenied isWhitespace defaultZenroomConfig "debug =1"
      "debug =1,debug=0" := by
  have hsettings : debugSettings isWhitespace "debug =1,debug=0" =
      ["1".toList, "0".toList] := by
    decide +kernel
  refine ⟨by decide +kernel, hsettings, ?_⟩
  intro hdenied
  have honce := hdenied.settings
  rw [hsettings] at honce
  exact absurd honce (by decide)

end NxccBridge.Zenroom
