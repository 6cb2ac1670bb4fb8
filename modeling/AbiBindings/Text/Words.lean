import AbiBindings.Text.Alphanumeric
import AbiBindings.Text.LetterCase

/-!
# Text — words and camel case

A name falls into words at every character that is neither letter nor digit, and inside a run of
letters and digits where the case turns: before an upper case letter that follows lower case
(`make|Person`), and before the last upper case letter of several if lower case follows
(`HTTP|Request`). Camel case joins the words again and marks where they began with a capital.
-/

namespace AbiBindings.Text

/-- Maximal runs of letters and digits; `run` is the one being read, last character first. -/
def runsFrom (run : List Char) : List Char → List (List Char)
  | [] => if run.isEmpty then [] else [run.reverse]
  | c :: rest =>
    if isAlphanumeric c then runsFrom (c :: run) rest
    else if run.isEmpty then runsFrom [] rest
    else run.reverse :: runsFrom [] rest

/-- The case that the word being read is in: that of its last letter with a case. -/
inductive Tone where
  | neutral
  | lower
  | upper
  deriving DecidableEq

/-- The tone of a word once `c` is read. -/
def Tone.after (tone : Tone) (c : Char) : Tone :=
  if isLowercase c then .lower else if isUppercase c then .upper else tone

/-- Cut a run where its case turns; `word` is the word being read, last character first. -/
def cutRun (tone : Tone) (word : List Char) : List Char → List (List Char)
  | [] => []
  | [c] => [(c :: word).reverse]
  | c :: next :: rest =>
    if tone.after c = .lower ∧ isUppercase next then
      (c :: word).reverse :: cutRun .neutral [] (next :: rest)
    else if tone = .upper ∧ isUppercase c ∧ isLowercase next then
      word.reverse :: cutRun .neutral [c] (next :: rest)
    else cutRun (tone.after c) (c :: word) (next :: rest)

/-- The words of a name. -/
def words (name : String) : List (List Char) :=
  (runsFrom [] name.toList).flatMap (cutRun .neutral [])

/-- A word in lower case. A sigma that ends the word takes its final form. -/
def lowerWord : List Char → List Char
  | [] => []
  | ['Σ'] => ['ς']
  | c :: rest => toLowercase c ++ lowerWord rest

/-- A word with its first letter in upper case and the others in lower case. -/
def capitalWord : List Char → List Char
  | [] => []
  | c :: rest => toUppercase c ++ lowerWord rest

/-- The words of `name` joined in camel case, the first one in lower case. -/
def lowerCamel (name : String) : String :=
  match words name with
  | [] => ""
  | first :: rest => String.ofList (lowerWord first ++ rest.flatMap capitalWord)

end AbiBindings.Text
