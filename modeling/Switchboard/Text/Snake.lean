import Switchboard.Text.Case

/-!
# Snake case

Names in small letters with underscores between their words. A new word starts at a large letter
behind a small letter or a digit, and at the last of several large letters when a small one follows.
-/

namespace Switchboard.Text

/-- Whether a word starts between two characters, the second one large, with `rest` behind it. -/
def startsWord (before : Char) (rest : List Char) : Bool :=
  isLower before || before.isDigit ||
    (isUpper before && (rest.head?.map isLower).getD false)

/-- The snake case of what is left of a name: `before` is the character in front of it, and `last`
the one that was written last. -/
def snakeFrom (before last : Option Char) : List Char → List Char
  | [] => []
  | c :: rest =>
    let written :=
      if isUpper c then
        let gap :=
          match before with
          | some b => last != some '_' && startsWord b rest
          | none => false
        (if gap then ['_'] else []) ++ lowerOf c
      else if c = '-' then ['_']
      else [c]
    written ++ snakeFrom (some c) (written.getLast?.or last) rest

def snakeCase (s : List Char) : List Char := snakeFrom none none s

end Switchboard.Text
