/-! Words are parted by spaces, tabs and newlines. Quotes and backslashes keep characters
together, a quoted newline vanishes, and a number sign where no word has begun starts a comment.
The only failure is a quote that is never closed. -/

namespace OpcodeTrace.Words

inductive Mode where
  /-- No word has begun. -/
  | between
  | comment
  /-- A backslash came where no word had begun. -/
  | betweenBackslash
  | bare
  | bareBackslash
  | single
  | double
  | doubleBackslash
deriving DecidableEq, Repr

def isSeparator (character : Char) : Bool :=
  character = ' ' || character = '\t' || character = '\n'

def isSpecialInDouble (character : Char) : Bool :=
  character = '$' || character = '\x60' || character = '"' || character = '\\'

/-- Splits the rest of a line. `word` holds the current word so far, last character first, and is
empty where no word has begun. -/
def splitFrom : Mode → (word : List Char) → List Char → Option (List (List Char))
  | .between, _, [] => some []
  | .comment, _, [] => some []
  | .betweenBackslash, word, [] => some [('\\' :: word).reverse]
  | .bare, word, [] => some [word.reverse]
  | .bareBackslash, word, [] => some [('\\' :: word).reverse]
  | .single, _, [] => none
  | .double, _, [] => none
  | .doubleBackslash, _, [] => none
  | .between, word, character :: rest =>
      if character = '\'' then splitFrom .single word rest
      else if character = '"' then splitFrom .double word rest
      else if character = '\\' then splitFrom .betweenBackslash word rest
      else if isSeparator character then splitFrom .between word rest
      else if character = '#' then splitFrom .comment word rest
      else splitFrom .bare (character :: word) rest
  | .comment, word, character :: rest =>
      if character = '\n' then splitFrom .between word rest else splitFrom .comment word rest
  | .betweenBackslash, word, character :: rest =>
      if character = '\n' then splitFrom .between word rest
      else splitFrom .bare (character :: word) rest
  | .bare, word, character :: rest =>
      if character = '\'' then splitFrom .single word rest
      else if character = '"' then splitFrom .double word rest
      else if character = '\\' then splitFrom .bareBackslash word rest
      else if isSeparator character then (splitFrom .between [] rest).map (word.reverse :: ·)
      else splitFrom .bare (character :: word) rest
  | .bareBackslash, word, character :: rest =>
      if character = '\n' then splitFrom .bare word rest
      else splitFrom .bare (character :: word) rest
  | .single, word, character :: rest =>
      if character = '\'' then splitFrom .bare word rest
      else splitFrom .single (character :: word) rest
  | .double, word, character :: rest =>
      if character = '"' then splitFrom .bare word rest
      else if character = '\\' then splitFrom .doubleBackslash word rest
      else splitFrom .double (character :: word) rest
  | .doubleBackslash, word, character :: rest =>
      if character = '\n' then splitFrom .double word rest
      else if isSpecialInDouble character then splitFrom .double (character :: word) rest
      else splitFrom .double (character :: '\\' :: word) rest

def split (line : String) : Option (List String) :=
  (splitFrom .between [] line.toList).map (·.map String.ofList)

end OpcodeTrace.Words
