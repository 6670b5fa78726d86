import Switchboard.Json.Value
import Switchboard.Numerics.Text

/-!
# Writing JSON

The compact form has no blanks; the indented form puts each item on its own line, two spaces a
level. Only quotes, backslashes and controls are escaped.
-/

namespace Switchboard.Json

open Numerics

def hexDigit (n : Nat) : Char := if n < 10 then Char.ofNat (48 + n) else Char.ofNat (87 + n)

def escape (c : Char) : List Char :=
  if c == '"' then ['\\', '"']
  else if c == '\\' then ['\\', '\\']
  else if c.toNat < 0x20 then
    if c == '\n' then ['\\', 'n']
    else if c == '\r' then ['\\', 'r']
    else if c == '\t' then ['\\', 't']
    else if c.toNat = 8 then ['\\', 'b']
    else if c.toNat = 12 then ['\\', 'f']
    else ['\\', 'u', '0', '0', hexDigit (c.toNat / 16), hexDigit (c.toNat % 16)]
  else [c]

def quote (s : List Char) : List Char := '"' :: s.flatMap escape ++ ['"']

def Number.print : Number → List Char
  | .int n => formatInt n
  | .float x => formatFloat x

mutual
def print : Json → List Char
  | .null => ['n', 'u', 'l', 'l']
  | .bool true => ['t', 'r', 'u', 'e']
  | .bool false => ['f', 'a', 'l', 's', 'e']
  | .num n => n.print
  | .str s => quote s.toList
  | .arr [] => ['[', ']']
  | .arr (v :: vs) => '[' :: print v ++ printItems vs
  | .obj [] => ['{', '}']
  | .obj ((k, v) :: ms) => '{' :: quote k.toList ++ ':' :: print v ++ printMembers ms
def printItems : List Json → List Char
  | [] => [']']
  | v :: vs => ',' :: print v ++ printItems vs
def printMembers : List (String × Json) → List Char
  | [] => ['}']
  | (k, v) :: ms => ',' :: quote k.toList ++ ':' :: print v ++ printMembers ms
end

def newline (level : Nat) : List Char := '\n' :: List.replicate (2 * level) ' '

mutual
def printIndented (level : Nat) : Json → List Char
  | .arr (v :: vs) =>
    '[' :: newline (level + 1) ++ printIndented (level + 1) v ++ printItemsIndented level vs
  | .obj ((k, v) :: ms) =>
    '{' :: newline (level + 1) ++ quote k.toList ++ ':' :: ' ' :: printIndented (level + 1) v ++
      printMembersIndented level ms
  | .arr [] => ['[', ']']
  | .obj [] => ['{', '}']
  | .null => print .null
  | .bool b => print (.bool b)
  | .num n => n.print
  | .str s => quote s.toList
def printItemsIndented (level : Nat) : List Json → List Char
  | [] => newline level ++ [']']
  | v :: vs =>
    ',' :: newline (level + 1) ++ printIndented (level + 1) v ++ printItemsIndented level vs
def printMembersIndented (level : Nat) : List (String × Json) → List Char
  | [] => newline level ++ ['}']
  | (k, v) :: ms =>
    ',' :: newline (level + 1) ++ quote k.toList ++ ':' :: ' ' :: printIndented (level + 1) v ++
      printMembersIndented level ms
end

def render (j : Json) : String := String.ofList (print j)

def renderIndented (j : Json) : String := String.ofList (printIndented 0 j)

end Switchboard.Json
