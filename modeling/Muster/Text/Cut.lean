/-
  Cutting texts: words, pieces between separators, and markup taken out.

  Four ways to cut cover every list that a rule text may hold:
    (1) **`words`**: the maximal runs of characters that are not blank; joined by one space they
        give the text with its blanks SQUEEZED, joined by dashes its slug;
    (2) **`splitWhere`**: the pieces between single separator characters, empty ones included;
    (3) **`replaceTags`**: a tag runs from a `<` to the next `>`; a `<` that no `>` follows is text;
    (4) `Pattern.split`, in `Text/Pattern.lean`, where a separator is more than one character.
-/
import Muster.Text.Blank

namespace Muster.Text

/-! ## Words -/

/-- The words from here on; `word` is the one being read, last character first. -/
def wordsFrom : List Char → List Char → List (List Char)
  | [], [] => []
  | word, [] => [word.reverse]
  | word, c :: r =>
    if isBlank c then
      if word.isEmpty then wordsFrom [] r else word.reverse :: wordsFrom [] r
    else wordsFrom (c :: word) r

/-- The maximal runs of characters that are not blank. -/
def words (s : List Char) : List (List Char) := wordsFrom [] s

/-- A text with each run of blanks made one space, and none at its ends. -/
def squeeze (s : List Char) : List Char := [' '].intercalate (words s)

/-- A text without its trailing characters of a class. -/
def dropEndWhile (ok : Char → Bool) (s : List Char) : List Char := (s.reverse.dropWhile ok).reverse

/-! ## Pieces -/

/-- The pieces of a text between characters of a class, empty ones included. -/
def splitWhere (ok : Char → Bool) : List Char → List (List Char)
  | [] => [[]]
  | c :: r =>
    match splitWhere ok r with
    | [] => [[c]]
    | p :: ps => if ok c then [] :: p :: ps else (c :: p) :: ps

/-- Whether the first text begins the second. -/
def begins : List Char → List Char → Bool
  | [], _ => true
  | _ :: _, [] => false
  | c :: r, d :: t => c == d && begins r t

/-- Whether the first text occurs somewhere in the second. -/
def occurs (p : List Char) : List Char → Bool
  | [] => p.isEmpty
  | c :: r => begins p (c :: r) || occurs p r

/-! ## Markup -/

/-- Puts `image` for each tag from here on; `inTag` says whether a tag is open. -/
def replaceTagsFrom (image : List Char) : Bool → List Char → List Char
  | _, [] => []
  | true, c :: r => replaceTagsFrom image (c != '>') r
  | false, c :: r =>
    if c == '<' && r.contains '>' then image ++ replaceTagsFrom image true r
    else c :: replaceTagsFrom image false r

/-- A text with each tag replaced by `image`. -/
def replaceTags (image s : List Char) : List Char := replaceTagsFrom image false s

/-- A text without its tags and without the blanks around what is left. -/
def dropMarkup (s : List Char) : List Char := trim (replaceTags [] s)

end Muster.Text
