import DirSchema.Text.Casing
set_option autoImplicit false

namespace DirSchema.Text

namespace Words

/-- The case of the last cased character of the word being read. -/
inductive Mode where
  | uncased
  | lower
  | upper
deriving DecidableEq, Repr

def Mode.after (mode : Mode) (c : Char) : Mode :=
  if isLowercase c then .lower else if isUppercase c then .upper else mode

/-- The words of a run of letters and numbers. `word` holds what is read of the current word, in
reverse. -/
def cut (mode : Mode) (word : List Char) : List Char → List (List Char)
  | [] => if word.isEmpty then [] else [word.reverse]
  | [c] => [(c :: word).reverse]
  | c :: next :: rest =>
    if mode.after c = .lower && isUppercase next then
      (c :: word).reverse :: cut .uncased [] (next :: rest)
    else if mode = .upper && isUppercase c && isLowercase next then
      word.reverse :: cut .uncased [c] (next :: rest)
    else
      cut (mode.after c) (c :: word) (next :: rest)

/-- The maximal runs of letters and numbers, in order; `run` holds the current one in reverse. -/
def runs (run : List Char) : List Char → List (List Char)
  | [] => [run.reverse]
  | c :: rest => if isAlphanumeric c then runs (c :: run) rest else run.reverse :: runs [] rest

end Words

/-- The words of a text. A word ends at every character that is no letter or number, before an upper
case letter that follows a lower case one, and before the last letter of an upper case run that a
lower case letter follows: `XMLHttpRequest` has the words `XML`, `Http` and `Request`. Digits belong
to the word they follow and keep its case. -/
def words (s : String) : List (List Char) :=
  (Words.runs [] s.toList).flatMap (Words.cut .uncased [])

/-- A word in lower case. A sigma at its end takes the final form. -/
def lowerWord : List Char → List Char
  | [] => []
  | [c] => if c = 'Σ' then ['ς'] else toLowercase c
  | c :: rest => toLowercase c ++ lowerWord rest

/-- A word in lower case but for its first character. -/
def titleWord : List Char → List Char
  | [] => []
  | c :: rest => toUppercase c ++ lowerWord rest

/-- The words in lower case, joined by underscores. -/
def snakeCase (s : String) : String :=
  String.ofList (List.intercalate ['_'] ((words s).map lowerWord))

/-- The words capitalized and joined. -/
def upperCamelCase (s : String) : String :=
  String.ofList ((words s).flatMap titleWord)

end DirSchema.Text
