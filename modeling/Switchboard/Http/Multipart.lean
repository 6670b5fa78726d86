import Switchboard.Http.MediaType
import Switchboard.Http.Pairs
import Switchboard.Text.Charset

/-!
# Multipart forms

The parts of a multipart body. A body is text to be ignored up to the first boundary, then parts
that each start with header lines and an empty line and run to the next boundary, then the closing
boundary; what follows is ignored. Anything else is malformed.
-/

namespace Switchboard

namespace Bytes

def cutAt? (pat : Bytes) : Bytes → Option (Bytes × Bytes)
  | [] => if pat.isEmpty then some ([], []) else none
  | b :: r =>
    if pat.isPrefixOf (b :: r) then some ([], (b :: r).drop pat.length)
    else (cutAt? pat r).map fun (before, after) => (b :: before, after)

theorem cutAt?_length {pat s before after : Bytes} (h : cutAt? pat s = some (before, after)) :
    after.length + pat.length ≤ s.length := by
  induction s generalizing before after with
  | nil =>
    unfold cutAt? at h
    split at h <;> simp_all
  | cons b r ih =>
    unfold cutAt? at h
    split at h
    · next hp =>
      have := (List.isPrefixOf_iff_prefix.1 hp).length_le
      simp at h
      obtain ⟨-, rfl⟩ := h
      simp at this ⊢
      omega
    · simp at h
      obtain ⟨x, hx, -⟩ := h
      have := ih hx
      simp
      omega

def ofAscii (s : String) : Bytes := s.toList.map fun c => UInt8.ofNat c.toNat

def crlf : Bytes := [13, 10]

def isBlankOctet (b : UInt8) : Bool := b == 0x20 || b == 0x09

def trimBlanks (b : Bytes) : Bytes :=
  ((b.dropWhile isBlankOctet).reverse.dropWhile isBlankOctet).reverse

end Bytes

namespace Multipart

structure Part where
  header : List (String × Bytes)
  content : Bytes

/-! ## Header lines -/

def cutLine? : Bytes → Option (Bytes × Bytes)
  | [] => none
  | 13 :: 10 :: r => some ([], r)
  | 10 :: r => some ([], r)
  | b :: r => (cutLine? r).map fun (l, rest) => (b :: l, rest)

def maxLines : Nat := 32

def isTokenOctet (b : UInt8) : Bool := isTokenChar (Char.ofNat b.toNat)

def isValueOctet (b : UInt8) : Bool := b == 9 || (32 ≤ b && b != 127)

def readLine? (l : Bytes) : Option (String × Bytes) :=
  let name := l.takeWhile isTokenOctet
  match l.dropWhile isTokenOctet with
  | 0x3A :: value =>
    if name.isEmpty || !value.all isValueOctet then none
    else
      some (String.ofList (Text.lowerAscii (name.map fun b => Char.ofNat b.toNat)),
        Bytes.trimBlanks value)
  | _ => none

def readHeader? : Nat → Bytes → Option (List (String × Bytes))
  | 0, b =>
    match cutLine? b with
    | some ([], _) => some []
    | _ => none
  | fuel + 1, b => do
    let (line, rest) ← cutLine? b
    if line.isEmpty then some []
    else
      let field ← readLine? line
      let fields ← readHeader? fuel rest
      some (field :: fields)

/-! ## Parts -/

def emptyLine : Bytes := [13, 10, 13, 10]

def readParts? (mark : Bytes) (s : Bytes) : Option (List Part) :=
  if [45, 45].isPrefixOf s then some []
  else
    match _h1 : s.dropWhile Bytes.isBlankOctet with
    | 13 :: 10 :: body =>
      match _h2 : Bytes.cutAt? emptyLine body with
      | none => none
      | some (lines, rest) =>
        match readHeader? maxLines (lines ++ emptyLine), _h3 : Bytes.cutAt? (Bytes.crlf ++ mark) rest with
        | some header, some (content, after) =>
          (readParts? mark after).map (⟨header, content⟩ :: ·)
        | _, _ => none
    | _ => none
termination_by s.length
decreasing_by
  have h1 := (List.dropWhile_suffix Bytes.isBlankOctet (l := s)).length_le
  rw [_h1] at h1
  have h2 := Bytes.cutAt?_length _h2
  have h3 := Bytes.cutAt?_length _h3
  simp at h1
  omega

def parts? (boundary : Bytes) (body : Bytes) : Option (List Part) :=
  let mark := [45, 45] ++ boundary
  (Bytes.cutAt? mark body).bind fun (_, rest) => readParts? mark rest

/-! ## What a part says about itself -/

/-- The last line of a name. -/
def Part.line? (p : Part) (name : String) : Option Bytes := p.header.reverse.lookup name

def isAsciiBlank (b : UInt8) : Bool := b == 32 || b == 9 || b == 10 || b == 12 || b == 13

/-- A value up to its closing quote; a backslash keeps a quote from closing it. -/
def quotedValue? : Bytes → Option Bytes
  | [] => none
  | 0x22 :: _ => some []
  | 0x5C :: 0x22 :: r => (quotedValue? r).map (0x22 :: ·)
  | b :: r => (quotedValue? r).map (b :: ·)

def parameterValue? (s : Bytes) : Option String :=
  match s.dropWhile isAsciiBlank with
  | 0x3D :: r =>
    match r.dropWhile isAsciiBlank with
    | 0x22 :: v => (quotedValue? v).bind Utf8.toText?
    | v => Utf8.toText? (v.takeWhile fun b => b != 0x3B && b != 0x20)
  | _ => none

/-- The parameter of a name: the first occurrence counts that nothing precedes but a blank or a
semicolon. Behind an occurrence that does not count, the search starts anew. -/
def parameter? (name : Bytes) (before : Option UInt8) (s : Bytes) : Option String :=
  match s with
  | [] => none
  | b :: r =>
    if name.isPrefixOf (b :: r) then
      if before.all fun p => isAsciiBlank p || p == 0x3B then
        parameterValue? ((b :: r).drop name.length)
      else parameter? name none (r.drop (name.length - 1))
    else parameter? name (some b) r
termination_by s.length

def Part.name? (p : Part) : Option String :=
  (p.line? "content-disposition").bind (parameter? (Bytes.ofAscii "name") none)

def Part.filename? (p : Part) : Option String :=
  (p.line? "content-disposition").bind (parameter? (Bytes.ofAscii "filename") none)

/-- The media type of a part; one that does not parse reads as absent. -/
def Part.mediaType? (p : Part) : Option MediaType := do
  let value ← p.line? "content-type"
  let text ← Utf8.toText? value
  if Header.isVisible text then MediaType.ofString? text else none

def Part.text (p : Part) : String :=
  let charset :=
    match p.mediaType?.bind (·.param? "charset") with
    | some name => Charset.ofName name
    | none => .utf8
  charset.decode p.content

def boundary? (contentType : String) : Option Bytes := do
  let m ← MediaType.ofString? contentType
  if m.top == "multipart".toList && m.subtype == "form-data".toList then
    (m.param? "boundary").map Utf8.encode
  else none

end Multipart

end Switchboard
