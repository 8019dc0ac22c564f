import Lineage.Markup.Reference

/-!
# Attributes of a tag

Attributes are written `key = "value"` or `key = 'value'`. One that is not
well formed, or whose key came before, is passed over, and reading goes on
behind it.
-/

namespace Lineage.Markup

/-- The white space of markup. -/
def isSpace (c : Char) : Bool :=
  c == ' ' || c == '\t' || c == '\r' || c == '\n'

/-- What follows the characters up to the next space. -/
def skipWord (cs : List Char) : List Char :=
  cs.dropWhile fun c => !isSpace c

/-- Whether a character ends the key of an attribute. -/
def endsKey (c : Char) : Bool :=
  c == '=' || isSpace c

/-- Reads attributes one after the other. `keys` are those that came before;
`fuel` bounds the number of attempts. -/
def readAttributes : Nat → List (List Char) → List Char → List (String × String)
  | 0, _, _ => []
  | fuel + 1, keys, cs =>
    match cs.dropWhile isSpace with
    | [] => []
    | first :: rest =>
      let key := first :: rest.takeWhile (!endsKey ·)
      match (rest.dropWhile (!endsKey ·)).dropWhile isSpace with
      | '=' :: behind =>
        if keys.contains key then readAttributes fuel keys (skipWord ('=' :: behind))
        else
          match behind.dropWhile isSpace with
          | [] => []
          | quote :: inner =>
            if quote = '"' ∨ quote = '\'' then
              match Chars.cut? quote inner with
              | none => []
              | some (value, rest) =>
                (.ofList key, .ofList (attributeValue value)) ::
                  readAttributes fuel (key :: keys) rest
            else readAttributes fuel (key :: keys) (skipWord (quote :: inner))
      | next => readAttributes fuel keys next

/-- The name of a tag: everything up to the first space. -/
def tagName (content : List Char) : String :=
  .ofList (content.takeWhile fun c => !isSpace c)

/-- The attributes of a tag from its content. -/
def tagAttributes (content : List Char) : List (String × String) :=
  readAttributes content.length [] (skipWord content)

end Lineage.Markup
