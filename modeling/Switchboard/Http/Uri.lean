import Switchboard.Text.Pieces
import Switchboard.Text.Utf8

/-!
# Request targets

A target is a path with an optional query, an absolute address whose path may be missing, a lone
authority, or an asterisk. Nothing is decoded; a fragment is dropped.
-/

namespace Switchboard

structure Uri where
  scheme : Option String
  authority : Option String
  path : String
  query : Option String
deriving DecidableEq, Repr

namespace Uri

def root : Uri := ⟨none, none, "/", none⟩

def inRange (lo hi : Nat) (c : Char) : Bool := lo ≤ c.toNat && c.toNat ≤ hi

/-- Characters of a path; everything beyond ASCII may stand in one, the delete character not. -/
def isPathChar (c : Char) : Bool :=
  c == '!' || inRange 0x24 0x3B c || c == '=' || inRange 0x40 0x5F c || inRange 0x61 0x7A c ||
  c == '|' || c == '~' || c == '"' || c == '{' || c == '}' || 0x80 ≤ c.toNat

def isQueryChar (c : Char) : Bool :=
  c == '!' || inRange 0x24 0x3B c || c == '=' || inRange 0x3F 0x7E c || 0x80 ≤ c.toNat

def splitPath? (s : List Char) : Option (List Char × Option (List Char)) :=
  let path := s.takeWhile fun c => c != '?' && c != '#'
  if !path.all isPathChar then none
  else
    match s.dropWhile fun c => c != '?' && c != '#' with
    | '?' :: r =>
      let query := r.takeWhile (· != '#')
      if query.all isQueryChar then some (path, some query) else none
    | _ => some (path, none)

/-! ## Authorities -/

structure AuthorityScan where
  colons : Nat := 0
  opened : Bool := false
  closed : Bool := false
  percent : Bool := false
  atEnd : Bool := false

def isAuthorityChar (c : Char) : Bool :=
  c.isAlphanum || "!$&'()*+,-.;=_~".toList.contains c

/-- Reads one character; a bracketed address or user part makes earlier colons and percent signs
harmless. -/
def AuthorityScan.step (a : AuthorityScan) (c : Char) : Option AuthorityScan :=
  if c == ':' then if a.colons ≥ 8 then none else some { a with colons := a.colons + 1, atEnd := false }
  else if c == '[' then
    if a.percent || a.opened then none else some { a with opened := true, atEnd := false }
  else if c == ']' then
    if !a.opened || a.closed then none
    else some { a with closed := true, colons := 0, percent := false, atEnd := false }
  else if c == '@' then some { a with colons := 0, percent := false, atEnd := true }
  else if c == '%' then some { a with percent := true, atEnd := false }
  else if isAuthorityChar c then some { a with atEnd := false }
  else none

def splitAuthority? (s : List Char) : Option (List Char × List Char) :=
  let stops (c : Char) : Bool := c == '/' || c == '?' || c == '#'
  let text := s.takeWhile fun c => !stops c
  let rest := s.dropWhile fun c => !stops c
  match text.foldlM AuthorityScan.step {} with
  | some a =>
    if a.opened != a.closed || a.colons > 1 || a.atEnd || a.percent then none else some (text, rest)
  | none => none

/-! ## Schemes -/

def isSchemeChar (c : Char) : Bool := c.isAlphanum || "+-.~".toList.contains c

/-- The scheme in front of `://` and what follows, `none` when there is none. A scheme of more than
64 characters is an error. -/
def splitScheme? (s : List Char) : Option (Option (List Char) × List Char) :=
  let scheme := s.takeWhile isSchemeChar
  match s.dropWhile isSchemeChar with
  | ':' :: '/' :: '/' :: rest =>
    if Text.lowerAscii scheme == "http".toList then some (some "http".toList, rest)
    else if Text.lowerAscii scheme == "https".toList then some (some "https".toList, rest)
    else if scheme.length > 64 then none
    else some (some scheme, rest)
  | _ => some (none, s)

def maxLength : Nat := 65534

def ofChars? (s : List Char) : Option Uri :=
  if s.isEmpty || (Utf8.encode s).length > maxLength then none
  else if s == ['*'] then some ⟨none, none, "*", none⟩
  else if s.head? == some '/' then
    (splitPath? s).map fun (p, q) => ⟨none, none, String.ofList p, q.map String.ofList⟩
  else do
    let (scheme, rest) ← splitScheme? s
    let (authority, rest) ← splitAuthority? rest
    match scheme with
    | none =>
      if rest.isEmpty then some ⟨none, some (String.ofList authority), "", none⟩ else none
    | some scheme =>
      if authority.isEmpty then none
      else do
        let (p, q) ← splitPath? rest
        some ⟨some (String.ofList scheme), some (String.ofList authority),
          if p.isEmpty then "/" else String.ofList p, q.map String.ofList⟩

def ofString? (s : String) : Option Uri := ofChars? s.toList

end Uri

end Switchboard
