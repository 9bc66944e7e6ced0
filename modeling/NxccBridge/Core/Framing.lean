import Mathlib.Algebra.Order.Ring.Nat
import Mathlib.Data.List.Basic
import Mathlib.Logic.Function.Basic

/-!
# Self-delimiting encodings

An encoding is self-delimiting when a value can be read back from the front of
any string that starts with its code.  The property is stronger than
injectivity and, unlike it, is kept by concatenation, so the layout of a
record is read off from the layouts of its fields.
-/

namespace NxccBridge.Framing

open Function

abbrev Byte := Fin 256
abbrev Bytes := List Byte

instance neZeroByte : NeZero 256 := ⟨Nat.succ_ne_zero 255⟩

/-- The bytes of a text. -/
def utf8 (text : String) : Bytes := text.toByteArray.data.toList.map UInt8.toFin

theorem utf8_injective : Injective utf8 := by
  intro left right heq
  have hbytes := List.map_injective_iff.mpr
    (fun _ _ h => UInt8.toFin_inj.mp h) heq
  exact String.toByteArray_inj.mp (ByteArray.ext (Array.toList_inj.mp hbytes))

variable {A B K Symbol : Type*}

/-- Two continued codes agree only if the values and the continuations do. -/
def SelfDelimiting (encode : A → List Symbol) : Prop :=
  ∀ left right leftRest rightRest,
    encode left ++ leftRest = encode right ++ rightRest →
      left = right ∧ leftRest = rightRest

theorem SelfDelimiting.injective {encode : A → List Symbol}
    (hencode : SelfDelimiting encode) : Injective encode := by
  intro left right heq
  exact (hencode left right [] [] (by rw [heq])).1

/-- Codes of which none is a prefix of another. -/
theorem selfDelimiting_of_prefix_free {encode : A → List Symbol}
    (hfree : ∀ left right, encode left <+: encode right → left = right) :
    SelfDelimiting encode := by
  intro left right leftRest rightRest heq
  have hsame : left = right := by
    rcases List.prefix_or_prefix_of_prefix (List.prefix_append _ leftRest)
      (heq ▸ List.prefix_append _ rightRest) with hstarts | hstarts
    · exact hfree left right hstarts
    · exact (hfree right left hstarts).symm
  subst hsame
  exact ⟨rfl, List.append_cancel_left heq⟩

theorem SelfDelimiting.comp {encode : B → List Symbol}
    (hencode : SelfDelimiting encode) {f : A → B} (hf : Injective f) :
    SelfDelimiting (fun value => encode (f value)) := by
  intro left right leftRest rightRest heq
  obtain ⟨hvalue, hrest⟩ := hencode _ _ _ _ heq
  exact ⟨hf hvalue, hrest⟩

/-- Two fields written one after the other. -/
theorem SelfDelimiting.append {encodeLeft : A → List Symbol}
    {encodeRight : B → List Symbol} (hleft : SelfDelimiting encodeLeft)
    (hright : SelfDelimiting encodeRight) :
    SelfDelimiting (fun pair : A × B =>
      encodeLeft pair.1 ++ encodeRight pair.2) := by
  intro left right leftRest rightRest heq
  rw [List.append_assoc, List.append_assoc] at heq
  obtain ⟨hfirst, htail⟩ := hleft _ _ _ _ heq
  obtain ⟨hsecond, hrest⟩ := hright _ _ _ _ htail
  exact ⟨Prod.ext hfirst hsecond, hrest⟩

/-- A constant label in front of a field. -/
theorem SelfDelimiting.labelled {encode : A → List Symbol}
    (hencode : SelfDelimiting encode) (label : List Symbol) :
    SelfDelimiting (fun value => label ++ encode value) := by
  intro left right leftRest rightRest heq
  rw [List.append_assoc, List.append_assoc] at heq
  exact hencode _ _ _ _ (List.append_cancel_left heq)

/-- A self-delimiting key in front of a body whose layout depends on it. -/
theorem selfDelimiting_of_key {key : A → K} {encodeKey : K → List Symbol}
    {body : A → List Symbol} (hkey : SelfDelimiting encodeKey)
    (hbody : ∀ left right leftRest rightRest, key left = key right →
      body left ++ leftRest = body right ++ rightRest →
        left = right ∧ leftRest = rightRest) :
    SelfDelimiting (fun value => encodeKey (key value) ++ body value) := by
  intro left right leftRest rightRest heq
  rw [List.append_assoc, List.append_assoc] at heq
  obtain ⟨hsame, hrest⟩ := hkey _ _ _ _ heq
  exact hbody _ _ _ _ hsame hrest

/-- Lists of one length, written element by element. -/
theorem SelfDelimiting.flatMap_of_length {encode : A → List Symbol}
    (hencode : SelfDelimiting encode) :
    ∀ (left right : List A) (leftRest rightRest : List Symbol),
      left.length = right.length →
      left.flatMap encode ++ leftRest = right.flatMap encode ++ rightRest →
        left = right ∧ leftRest = rightRest := by
  intro left
  induction left with
  | nil =>
      intro right leftRest rightRest hlength heq
      have hright : right = [] := List.length_eq_zero_iff.mp hlength.symm
      subst hright
      exact ⟨rfl, heq⟩
  | cons head tail ih =>
      intro right leftRest rightRest hlength heq
      cases right with
      | nil => simp at hlength
      | cons other others =>
          simp only [List.flatMap_cons, List.append_assoc] at heq
          obtain ⟨hhead, htail⟩ := hencode _ _ _ _ heq
          obtain ⟨hothers, hrest⟩ :=
            ih others _ _ (by simpa using hlength) htail
          exact ⟨by rw [hhead, hothers], hrest⟩

/-- A list written element by element and closed by a terminator that no
element code starts with. -/
theorem SelfDelimiting.terminated {encode : A → List Symbol}
    (hencode : SelfDelimiting encode) (stop : List Symbol)
    (hstop : ∀ value rest stopRest,
      encode value ++ rest ≠ stop ++ stopRest) :
    SelfDelimiting (fun values : List A => values.flatMap encode ++ stop) := by
  intro left
  induction left with
  | nil =>
      intro right leftRest rightRest heq
      cases right with
      | nil => exact ⟨rfl, by simpa using heq⟩
      | cons other others =>
          simp only [List.flatMap_nil, List.nil_append, List.flatMap_cons,
            List.append_assoc] at heq
          exact absurd heq.symm (hstop _ _ _)
  | cons head tail ih =>
      intro right leftRest rightRest heq
      cases right with
      | nil =>
          simp only [List.flatMap_nil, List.nil_append, List.flatMap_cons,
            List.append_assoc] at heq
          exact absurd heq (hstop _ _ _)
      | cons other others =>
          simp only [List.flatMap_cons, List.append_assoc] at heq
          obtain ⟨hhead, htail⟩ := hencode _ _ _ _ heq
          obtain ⟨hothers, hrest⟩ := ih others leftRest rightRest (by
            simpa only [List.append_assoc] using htail)
          exact ⟨by rw [hhead, hothers], hrest⟩

/-! ## Marks

A mark that starts nowhere inside a string locates the string in any longer
one, so a suffix that begins with the mark is the whole string.
-/

/-- No occurrence of `mark` in `text ++ rest` starts inside `text`. -/
def Avoids (mark text rest : List Symbol) : Prop :=
  ∀ before after, text = before ++ after → after ≠ [] →
    ¬ mark <+: after ++ rest

theorem avoids_nil (mark rest : List Symbol) : Avoids mark [] rest := by
  intro before after hsplit hafter
  simp_all

theorem Avoids.append {mark left right rest : List Symbol}
    (hleft : Avoids mark left (right ++ rest))
    (hright : Avoids mark right rest) : Avoids mark (left ++ right) rest := by
  intro before after hsplit hafter hstarts
  rcases List.append_eq_append_iff.mp hsplit with
    ⟨middle, hbefore, hafter'⟩ | ⟨middle, hbefore, hafter'⟩
  · exact hright middle after hafter' hafter hstarts
  · subst hafter'
    cases middle with
    | nil => exact hright [] right rfl (by simpa using hafter) (by simpa using hstarts)
    | cons symbol middle =>
        exact hleft before (symbol :: middle) hbefore (by simp)
          (by simpa only [List.append_assoc] using hstarts)

/-- A string without the first symbol of the mark. -/
theorem avoids_of_forall_ne {first : Symbol} {mark text : List Symbol}
    (hne : ∀ symbol ∈ text, symbol ≠ first) (rest : List Symbol) :
    Avoids (first :: mark) text rest := by
  intro before after hsplit hafter hstarts
  cases after with
  | nil => exact hafter rfl
  | cons symbol after =>
      have hfirst : first = symbol := (List.cons_prefix_cons.mp hstarts).1
      exact hne symbol (by simp [hsplit]) hfirst.symm

/-- A string shorter than the mark and followed by a symbol that the mark does
not contain. -/
theorem avoids_of_length_lt {mark text : List Symbol} {next : Symbol}
    (hlength : text.length < mark.length) (hnext : next ∉ mark)
    (rest : List Symbol) : Avoids mark text (next :: rest) := by
  intro before after hsplit _ hstarts
  have hshort : after.length < mark.length := by
    have := congrArg List.length hsplit
    simp only [List.length_append] at this
    omega
  obtain ⟨tail, htail⟩ := hstarts
  have hmem : next ∈ mark := by
    have hget : (mark ++ tail)[after.length]? = some next := by
      rw [htail, List.getElem?_append_right (Nat.le_refl _)]
      simp
    rw [List.getElem?_append_left hshort] at hget
    exact List.mem_of_getElem? hget
  exact hnext hmem

/-- A suffix that begins with the mark is the whole string. -/
theorem eq_nil_of_avoids {mark whole skipped suffix : List Symbol}
    (hwhole : whole = skipped ++ suffix) (hmark : mark <+: suffix)
    (hnonempty : mark ≠ []) (havoids : Avoids mark whole.tail []) :
    skipped = [] := by
  cases skipped with
  | nil => rfl
  | cons symbol skipped =>
      subst hwhole
      have hsuffix : suffix ≠ [] := by
        rintro rfl
        exact hnonempty (List.prefix_nil.mp hmark)
      exact absurd (by simpa using hmark) (havoids skipped suffix rfl hsuffix)

end NxccBridge.Framing
