import NxccBridge.Core.Framing
import NxccBridge.Core.MultiMap

/-!
# HTTP messages

Methods, header names, header values and status codes are texts, bytes and
numbers of a certain form.  What has the form is read back as it was written;
header names are read without regard to case.
-/

namespace NxccBridge.Http

open NxccBridge.Framing
open NxccBridge.Multimaps

/-! ## The parts of a message -/

/-- The characters of a token. -/
def isTokenChar (char : Char) : Bool :=
  char.isAlphanum || "!#$%&'*+-.^_`|~".toList.contains char

def isMethod (text : List Char) : Bool :=
  !text.isEmpty && text.all isTokenChar

/-- A name is kept in lower case. -/
def isHeaderName (text : List Char) : Bool :=
  !text.isEmpty && decide (text.length < 65536) &&
    text.all fun char => isTokenChar char && !char.isUpper

/-- Visible characters, the space, the tab and bytes beyond ASCII. -/
def isValueByte (byte : Byte) : Bool :=
  decide (32 ≤ byte.val) && decide (byte.val ≠ 127) || decide (byte.val = 9)

structure Method where
  text : List Char
  wellFormed : isMethod text = true
  deriving DecidableEq

structure HeaderName where
  text : List Char
  wellFormed : isHeaderName text = true
  deriving DecidableEq

structure HeaderValue where
  bytes : Bytes
  wellFormed : bytes.all isValueByte = true
  deriving DecidableEq

structure StatusCode where
  code : ℕ
  wellFormed : 100 ≤ code ∧ code < 1000
  deriving DecidableEq

abbrev Headers := MultiMap HeaderName HeaderValue

namespace Method

def fromText (text : String) : Option Method :=
  if hform : isMethod text.toList = true then some ⟨text.toList, hform⟩
  else none

def asStr (self : Method) : String := String.ofList self.text

@[simp]
theorem fromText_asStr (self : Method) : fromText self.asStr = some self := by
  simp [fromText, asStr, self.wellFormed]

end Method

namespace HeaderName

def fromText (text : String) : Option HeaderName :=
  let lower := text.toList.map Char.toLower
  if hform : isHeaderName lower = true then some ⟨lower, hform⟩ else none

def asStr (self : HeaderName) : String := String.ofList self.text

def contentType : HeaderName := ⟨"content-type".toList, by decide⟩

theorem map_toLower (self : HeaderName) :
    self.text.map Char.toLower = self.text := by
  have hform := self.wellFormed
  simp only [isHeaderName, Bool.and_eq_true, List.all_eq_true,
    Bool.not_eq_true'] at hform
  have hlower : ∀ char ∈ self.text, Char.toLower char = char := by
    intro char hchar
    have hupper := (hform.2 char hchar).2
    have hrange : ¬(char.val ≥ 'A'.val ∧ char.val ≤ 'Z'.val) :=
      of_decide_eq_false hupper
    exact dif_neg hrange
  rw [List.map_congr_left hlower, List.map_id']

@[simp]
theorem fromText_asStr (self : HeaderName) :
    fromText self.asStr = some self := by
  have hlower := self.map_toLower
  simp [fromText, asStr, hlower, self.wellFormed]

end HeaderName

namespace HeaderValue

def fromBytes (bytes : Bytes) : Option HeaderValue :=
  if hform : bytes.all isValueByte = true then some ⟨bytes, hform⟩ else none

@[simp]
theorem fromBytes_bytes (self : HeaderValue) :
    fromBytes self.bytes = some self := by
  rw [fromBytes, dif_pos self.wellFormed]

end HeaderValue

namespace StatusCode

def fromNumber (code : ℕ) : Option StatusCode :=
  if hform : 100 ≤ code ∧ code < 1000 then some ⟨code, hform⟩ else none

@[simp]
theorem fromNumber_code (self : StatusCode) :
    fromNumber self.code = some self := by
  rw [fromNumber, dif_pos self.wellFormed]

def notFound : StatusCode := ⟨404, by decide⟩

def internalServerError : StatusCode := ⟨500, by decide⟩

end StatusCode

/-! ## Targets -/

/-- The characters that may stand in a path and in a query. -/
structure UriChars where
  path : Char → Bool
  query : Char → Bool
  path_slash : path '/' = true
  path_question : path '?' = false
  path_hash : path '#' = false
  query_hash : query '#' = false

/-- A path and a query; the path starts at the root. -/
structure Target (chars : UriChars) where
  segments : List Char
  query : Option (List Char)
  segments_path : segments.all chars.path = true
  query_query : (query.getD []).all chars.query = true

namespace Target

variable {chars : UriChars}

def path (self : Target chars) : List Char := '/' :: self.segments

def text (self : Target chars) : List Char :=
  self.path ++ (match self.query with
    | none => []
    | some query => '?' :: query)

/-- A target without a query. -/
def ofSegments (segments : List Char)
    (hsegments : segments.all chars.path = true) : Target chars :=
  ⟨segments, none, hsegments, rfl⟩

/-- What stands before the first question mark, and what behind it. -/
def splitQuery (text : List Char) : List Char × Option (List Char) :=
  (text.takeWhile (· != '?'), match text.dropWhile (· != '?') with
    | [] => none
    | _ :: query => some query)

def ofParts (segments : List Char) (query : Option (List Char)) :
    Option (Target chars) :=
  if hparts : segments.all chars.path = true ∧
      (query.getD []).all chars.query = true then
    some ⟨segments, query, hparts.1, hparts.2⟩
  else none

/-- A fragment is dropped, and the empty path is the root. -/
def parse (text : List Char) : Option (Target chars) :=
  let parts := splitQuery (text.takeWhile (· != '#'))
  match parts.1 with
  | [] => ofParts [] parts.2
  | '/' :: segments => ofParts segments parts.2
  | _ => none

theorem takeWhile_append_mark {keep : Char → Bool} {before : List Char}
    {mark : Char} (hbefore : before.all keep = true) (hmark : keep mark = false)
    (after : List Char) :
    (before ++ mark :: after).takeWhile keep = before ∧
      (before ++ mark :: after).dropWhile keep = mark :: after := by
  induction before with
  | nil => simp [hmark]
  | cons char rest ih =>
      rw [List.all_cons, Bool.and_eq_true] at hbefore
      obtain ⟨htake, hdrop⟩ := ih hbefore.2
      simp [hbefore.1, htake, hdrop]

theorem takeWhile_all {keep : Char → Bool} {text : List Char}
    (htext : text.all keep = true) :
    text.takeWhile keep = text ∧ text.dropWhile keep = [] := by
  induction text with
  | nil => simp
  | cons char rest ih =>
      rw [List.all_cons, Bool.and_eq_true] at htext
      obtain ⟨htake, hdrop⟩ := ih htext.2
      simp [htext.1, htake, hdrop]

/-- Characters of a table that leaves out a mark are not the mark. -/
theorem all_ne_of_all {table : Char → Bool} {mark : Char} {text : List Char}
    (htext : text.all table = true) (hmark : table mark = false) :
    text.all (· != mark) = true := by
  rw [List.all_eq_true] at htext ⊢
  intro char hchar
  rw [bne_iff_ne]
  rintro rfl
  rw [htext char hchar] at hmark
  cases hmark

theorem path_all (self : Target chars) : self.path.all chars.path = true := by
  rw [path, List.all_cons, chars.path_slash, self.segments_path, Bool.and_self]

theorem splitQuery_text (self : Target chars) :
    splitQuery self.text = (self.path, self.query) := by
  have hpath := all_ne_of_all self.path_all chars.path_question
  rw [splitQuery, text]
  cases hquery : self.query with
  | none =>
      obtain ⟨htake, hdrop⟩ := takeWhile_all hpath
      simp only [List.append_nil, htake, hdrop]
  | some query =>
      have hmark : ('?' != '?') = false := by decide
      obtain ⟨htake, hdrop⟩ := takeWhile_append_mark hpath hmark query
      simp only [htake, hdrop]

theorem text_all (self : Target chars) :
    self.text.all (· != '#') = true := by
  have hpath := all_ne_of_all self.path_all chars.path_hash
  have hquery := all_ne_of_all self.query_query chars.query_hash
  rw [text]
  cases hcase : self.query with
  | none => rw [List.append_nil, hpath]
  | some query =>
      rw [hcase, Option.getD_some] at hquery
      rw [List.all_append, hpath, List.all_cons, hquery]
      decide

@[simp]
theorem parse_text (self : Target chars) : parse self.text = some self := by
  obtain ⟨htake, -⟩ := takeWhile_all self.text_all
  rw [parse, htake, splitQuery_text]
  simp only [path, ofParts]
  rw [dif_pos ⟨self.segments_path, self.query_query⟩]

end Target

/-! ## Messages -/

structure Request (Target : Type) where
  method : Method
  target : Target
  headers : Headers
  body : Bytes

structure Response where
  status : StatusCode
  headers : Headers
  body : Bytes

end NxccBridge.Http
