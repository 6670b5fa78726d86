import Switchboard.Toml.Scalar

/-!
# Reading TOML

A document is a sequence of lines: a header, a key with a value, or nothing, each with an optional
comment. Values nest, and keys have parts, but both only up to a limit.
-/

namespace Switchboard.Toml

/-- Fewer arrays and inline tables than this may stand inside each other, and a key has fewer
parts. -/
def nestingLimit : Nat := 80

def lineEnd? (s : List Char) : Option (List Char) :=
  let s :=
    match skipBlanks s with
    | '#' :: r => r.dropWhile isPrintable
    | r => r
  match s with
  | [] => some []
  | r => newline? r

theorem length_skipBlanks_le (s : List Char) : (skipBlanks s).length ≤ s.length :=
  (List.dropWhile_suffix isBlank).length_le

/-- Skips blanks, line breaks and comments; `none` when a comment is not ended by a line break. -/
def skipLines? (s : List Char) : Option (List Char) :=
  match _h : skipBlanks s with
  | '#' :: comment =>
    match _n : newline? (comment.dropWhile isPrintable) with
    | some r => skipLines? r
    | none => none
  | line =>
    match _n : newline? line with
    | some r => skipLines? r
    | none => some line
termination_by s.length
decreasing_by
  · have h1 := length_skipBlanks_le s
    have h2 := (List.dropWhile_suffix isPrintable (l := comment)).length_le
    have h3 := newline?_length _n
    rw [_h, List.length_cons] at h1
    omega
  · have h1 := length_skipBlanks_le s
    have h3 := newline?_length _n
    rw [_h] at h1
    omega

/-! ## Keys -/

def isBareChar (c : Char) : Bool := c.isAlphanum || c == '-' || c == '_'

def keyPart? : List Char → Option (String × List Char)
  | '"' :: r => (basic? r).map fun (text, rest) => (String.ofList text, rest)
  | '\'' :: r => (literal? r).map fun (text, rest) => (String.ofList text, rest)
  | s =>
    let name := s.takeWhile isBareChar
    if name.isEmpty then none else some (String.ofList name, s.dropWhile isBareChar)

def keyParts? : Nat → List Char → Option (List String × List Char)
  | 0, _ => none
  | count + 1, s => do
    let (part, rest) ← keyPart? (skipBlanks s)
    match skipBlanks rest with
    | '.' :: r => (keyParts? count r).map fun (parts, rest) => (part :: parts, rest)
    | r => some ([part], r)

def key? (s : List Char) : Option (List String × List Char) := keyParts? (nestingLimit - 1) s

def splitKey (parts : List String) : List String × String := (parts.dropLast, parts.getLast?.getD "")

/-! ## Values -/

def dropNewline (s : List Char) : List Char := (newline? s).getD s

def isWordEnd (c : Char) : Bool :=
  [' ', '\t', '\r', '\n', ',', ']', '}', '#'].contains c

/-- The word at the front; a date goes on behind a single blank when a time follows. -/
def wordAt (s : List Char) : List Char × List Char :=
  let word := s.takeWhile (!isWordEnd ·)
  let rest := s.dropWhile (!isWordEnd ·)
  match rest with
  | ' ' :: r =>
    let longer := word ++ ' ' :: r.takeWhile (!isWordEnd ·)
    if isDate word ∧ isMoment longer then (longer, r.dropWhile (!isWordEnd ·)) else (word, rest)
  | _ => (word, rest)

mutual
/-- The value at the front, and what follows it. `depth` arrays and inline tables may still be
opened, and `fuel` bounds the number of steps. -/
def value? : Nat → Nat → List Char → Option (Node × List Char)
  | 0, _, _ => none
  | fuel + 1, depth, s =>
    match s with
    | '"' :: '"' :: '"' :: r =>
      (long? '"' true (dropNewline r)).map fun (text, rest) => (.text (String.ofList text), rest)
    | '"' :: r => (basic? r).map fun (text, rest) => (.text (String.ofList text), rest)
    | '\'' :: '\'' :: '\'' :: r =>
      (long? '\'' false (dropNewline r)).map fun (text, rest) => (.text (String.ofList text), rest)
    | '\'' :: r => (literal? r).map fun (text, rest) => (.text (String.ofList text), rest)
    | '[' :: r =>
      match depth with
      | 0 => none
      | depth + 1 => (items? fuel depth r).map fun (items, rest) => (.array items, rest)
    | '{' :: r =>
      match depth, skipBlanks r with
      | 0, _ => none
      | _, '}' :: rest => some (.table .inline [], rest)
      | depth + 1, r => (pairs? fuel depth [] r).map fun (ms, rest) => (.table .inline ms, rest)
    | s =>
      let (word, rest) := wordAt s
      (word? word).map (·, rest)
def items? : Nat → Nat → List Char → Option (List Node × List Char)
  | 0, _, _ => none
  | fuel + 1, depth, s => do
    match ← skipLines? s with
    | ']' :: rest => some ([], rest)
    | s => do
      let (item, rest) ← value? fuel depth s
      match ← skipLines? rest with
      | ',' :: r => (items? fuel depth r).map fun (items, rest) => (item :: items, rest)
      | ']' :: r => some ([item], r)
      | _ => none
def pairs? : Nat → Nat → Members → List Char → Option (Members × List Char)
  | 0, _, _, _ => none
  | fuel + 1, depth, ms, s => do
    let (parts, rest) ← key? s
    match rest with
    | '=' :: r => do
      let (value, rest) ← value? fuel depth (skipBlanks r)
      let (path, key) := splitKey parts
      let ms ← Members.put? .inline true key value path ms
      match skipBlanks rest with
      | ',' :: r => pairs? fuel depth ms r
      | '}' :: r => some (ms, r)
      | _ => none
    | _ => none
end

/-! ## Documents -/

structure Draft where
  members : Members := []
  path : List String := []

def header? (d : Draft) (s : List Char) : Option (Draft × List Char) := do
  match s with
  | '[' :: r => do
    let (parts, rest) ← key? r
    match rest with
    | ']' :: ']' :: rest => do
      let (path, key) := splitKey parts
      let members ← d.members.openElement path key
      some ({ members, path := parts }, ← lineEnd? rest)
    | _ => none
  | r => do
    let (parts, rest) ← key? r
    match rest with
    | ']' :: rest => do
      let (path, key) := splitKey parts
      let members ← d.members.openTable path key
      some ({ members, path := parts }, ← lineEnd? rest)
    | _ => none

def pair? (fuel : Nat) (d : Draft) (s : List Char) : Option (Draft × List Char) := do
  let (parts, rest) ← key? s
  match rest with
  | '=' :: r => do
    let (value, rest) ← value? fuel (nestingLimit - 1) (skipBlanks r)
    let (path, key) := splitKey parts
    let members ← Members.alterAt (Members.put? .header true key value path) d.path d.members
    some ({ d with members }, ← lineEnd? rest)
  | _ => none

def lines? : Nat → Draft → List Char → Option Draft
  | 0, _, _ => none
  | fuel + 1, d, s =>
    match skipBlanks s with
    | [] => some d
    | '[' :: r => (header? d r).bind fun (d, rest) => lines? fuel d rest
    | r =>
      match lineEnd? r with
      | some rest => lines? fuel d rest
      | none => (pair? (fuel + 1) d r).bind fun (d, rest) => lines? fuel d rest

/-- The tables of a document. A byte order mark in front is skipped. -/
def ofText? (s : List Char) : Option Members :=
  let s :=
    match s with
    | '\uFEFF' :: r => r
    | r => r
  (lines? s.length.succ {} s).map (·.members)

end Switchboard.Toml
